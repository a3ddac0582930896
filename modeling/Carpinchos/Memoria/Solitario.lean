import Carpinchos.Library.Parties
import Carpinchos.Memoria.Api

/-!
# A carpincho alone

What the calls of the module mean to a carpincho that has a memory of its own: as many bytes as
its pages, one after the other, without frames, translation or SWAmP. The blocks are those of the
module. The machine gives no answer where the module promises none: it does not compact, it stays
below 2^31 addresses, and a range lies in two pages at most.
-/

namespace Carpinchos.Memoria

open Outcome Bytes

/-- The pages, the blocks and the bytes of a carpincho. -/
structure HeapLlano where
  paginas : ℕ
  allocs : List Alloc
  bytes : Mem

/-- A carpincho, and the numbers of pages that it has asked SWAmP for. -/
structure Solitario where
  consultas : List ℤ
  heap : Option HeapLlano

def Llamada.pid : Llamada → ℤ
  | .memalloc pid _ => pid
  | .memwrite pid _ _ => pid
  | .memread pid _ _ => pid
  | .memfree pid _ => pid
  | .memfreeAll pid => pid

namespace Solitario

variable (cfg : Config) (concede : ℤ → List ℤ → ℤ → Bool) (pid : ℤ)

section Bytes

def vacio : HeapLlano := ⟨0, [], fun _ => guion⟩

def inicial : Solitario := ⟨[], none⟩

def conHeap (h : HeapLlano) (t : Solitario) : Solitario := { t with heap := some h }

def conAllocs (allocs : List Alloc) (h : HeapLlano) : HeapLlano := { h with allocs := allocs }

def heapLlano (t : Solitario) : Except Falla HeapLlano :=
  match t.heap with
  | some h => .ok h
  | none => .error .punteroNulo

theorem heapLlano_eq_ok {t : Solitario} {h : HeapLlano} :
    heapLlano t = .ok h ↔ t.heap = some h := by
  unfold heapLlano
  split <;> simp_all

/-- The range is part of the pages, and of two of them at most. -/
def alcanza (h : HeapLlano) (pos size : ℕ) : Bool :=
  decide (h.paginas * cfg.tamanioPagina < 2 ^ 31) &&
    decide (pos + size ≤ h.paginas * cfg.tamanioPagina) &&
    decide ((pos + (size - 1)) / cfg.tamanioPagina ≤ pos / cfg.tamanioPagina + 1)

def escribir (pos : ℕ) (valor : List UInt8) (t : Solitario) : Except Falla Solitario := do
  let h ← heapLlano t
  if alcanza cfg h pos valor.length then
    .ok (conHeap { h with bytes := copy h.bytes pos valor } t)
  else .error .fueraDeCache

def persistirMetadata (unAlloc : Alloc) (t : Solitario) : Except Falla Solitario := do
  let h ← heapLlano t
  let indice ← obtenerIndiceDeAlloc h.allocs unAlloc.direccion
  escribir cfg unAlloc.direccion (metadataDe h.allocs indice unAlloc.isFree) t

end Bytes

section Memalloc

def preguntar (cantPag : ℤ) (t : Solitario) : Bool × Solitario :=
  (concede pid t.consultas cantPag, { t with consultas := t.consultas ++ [cantPag] })

def solicitar (espacioLibreActual size : ℤ) (t : Solitario) :
    Except Falla (CheckAllocRespuesta × Solitario) := do
  let cantPag ← calcularCantidadPaginasNecesaria cfg espacioLibreActual size
  let (puede, t) := preguntar concede pid cantPag t
  .ok (if puede then .allocSolicitarPagina else .allocSinEspacio, t)

def chequear (h : HeapLlano) (size : ℤ) (t : Solitario) :
    Except Falla (CheckAllocRespuesta × Solitario) :=
  planAlloc cfg h.paginas h.allocs size (fun respuesta => (respuesta, t))
    fun espacioLibreActual => solicitar cfg concede pid espacioLibreActual size t

/-- No carpincho has the pid 0, with which the module marks what is free. -/
def planificar (size : ℕ) (t : Solitario) : Except Falla (CheckAllocRespuesta × Solitario) :=
  match t.heap with
  | none =>
    if pid = 0 then .error .operandoInexistente
    else do
      let cantPag ← calcularCantidadPaginasNecesaria cfg 0 (aInt size)
      let (puede, t) := preguntar concede pid cantPag t
      .ok (if puede then (.allocSolicitarPagina, conHeap vacio t) else (.allocSinEspacio, t))
  | some h => chequear cfg concede pid h (aInt size) t

def asignarEnHeap (size : ℕ) (t : Solitario) : Except Falla (ℕ × Solitario) := do
  let h ← heapLlano t
  let asignado ← asignarEnHeapLibre size h.allocs
  let t := conHeap (conAllocs asignado.allocs h) t
  match asignado.nuevoAlloc with
  | none => .ok (asignado.direccion, t)
  | some nuevoAlloc =>
    let t ← persistirMetadata cfg nuevoAlloc t
    .ok (asignado.direccion, t)

def asignarAlFinal (size : ℕ) (t : Solitario) : Except Falla (ℕ × Solitario) := do
  let h ← heapLlano t
  .ok (inicioDatoAlFinal h.allocs,
    conHeap (conAllocs (h.allocs ++ [allocAlFinal size h.allocs]) h) t)

def asignarConPaginas (size : ℕ) (t : Solitario) : Except Falla (ℕ × Solitario) := do
  let h ← heapLlano t
  let espacioOcupado ← sumarAllocs h.allocs 0
  let espacioLibre ← enInt (espacioTotal cfg h.paginas - espacioOcupado)
  let cantPag ← calcularCantidadPaginasNecesaria cfg espacioLibre (aInt size)
  let _ ← enInt (cantPag + 1)
  asignarAlFinal size (conHeap { h with paginas := h.paginas + cantPag.toNat } t)

def asignar (size : ℕ) (checkStatus : CheckAllocRespuesta) (t : Solitario) :
    Except Falla (Option ℕ × Solitario) :=
  match checkStatus with
  | .allocSinEspacio => .ok (none, t)
  | .allocHeap => do
    let (direccion, t) ← asignarEnHeap cfg size t
    .ok (some direccion, t)
  | .allocPagina => do
    let (direccion, t) ← asignarAlFinal size t
    .ok (some direccion, t)
  | .allocSolicitarPagina => do
    let (direccion, t) ← asignarConPaginas cfg size t
    .ok (some direccion, t)

def persistirEn (direccion : ℕ) (t : Solitario) : Except Falla Solitario := do
  let h ← heapLlano t
  match obtenerAllocDeUnCarpincho h.allocs direccion with
  | none => .error .punteroNulo
  | some alloc => persistirMetadata cfg alloc t

def memalloc (size : ℕ) (t : Solitario) :
    Except Falla ((StatusMemoryOp × Option ℕ) × Solitario) := do
  let (checkStatus, t) ← planificar cfg concede pid size t
  let (direccion, t) ← asignar cfg size checkStatus t
  match direccion with
  | none => .ok ((.sinEspacio, none), t)
  | some direccion =>
    let t ← persistirEn cfg direccion t
    .ok ((.exito, some direccion), t)

end Memalloc

section Acceso

def memwrite (pos : ℕ) (valor : List UInt8) (t : Solitario) :
    Except Falla (StatusMemoryOp × Solitario) :=
  match t.heap with
  | none => .ok (.direccionInvalida, t)
  | some h =>
    if validarDireccionLogicaEscrituraConSize cfg h.paginas h.allocs pos valor.length then
      match obtenerAllocDeUnCarpincho h.allocs pos with
      | none => .error .punteroNulo
      | some alloc =>
        let dirFinAlloc := aUint32 (alloc.direccion + 9 + alloc.tamanioData - 1)
        let bytesDisponibles := aUint32 (dirFinAlloc - pos + 1)
        if bytesDisponibles < valor.length then .ok (.direccionInvalida, t)
        else do
          contarHasta valor.length
          let t ← escribir cfg pos valor t
          .ok (.exito, t)
    else .ok (.direccionInvalida, t)

def memread (pos : ℕ) (buffer : List UInt8) (t : Solitario) :
    Except Falla ((StatusMemoryOp × List UInt8) × Solitario) :=
  match t.heap with
  | none => .ok ((.direccionInvalida, buffer), t)
  | some h =>
    if validarDireccionLogicaEscrituraConSize cfg h.paginas h.allocs pos buffer.length then do
      contarHasta buffer.length
      if alcanza cfg h pos buffer.length then
        .ok ((.exito, slice h.bytes pos buffer.length), t)
      else .error .fueraDeCache
    else .ok ((.direccionInvalida, buffer), t)

end Acceso

section Memfree

/-- A free that leaves only free blocks in the first page is not promised anything: the module
compacts there. -/
def memfree (pos : ℕ) (t : Solitario) : Except Falla (StatusMemoryOp × Solitario) :=
  match t.heap with
  | none => .ok (.direccionInvalida, t)
  | some h =>
    if validarDireccionLogica cfg h.paginas pos then do
      match ← liberarAlloc h.allocs pos with
      | none => .ok (.direccionInvalida, t)
      | some (allocs, alloc) =>
        let t ← persistirMetadata cfg alloc (conHeap (conAllocs allocs h) t)
        let deLaPagina ← allocsDePagina cfg 0 allocs
        if todosLosAllocsEstanLibres deLaPagina then .error .memoriaLiberada else .ok (.exito, t)
    else .ok (.direccionInvalida, t)

end Memfree

/-- A call of the carpincho, alone in its memory. -/
def llamar (op : Llamada) (t : Solitario) : Except Falla (Respuesta × Solitario) :=
  match op with
  | .memalloc pid size => do
    let (r, t) ← memalloc cfg concede pid size t
    .ok (⟨r.1, r.2, none⟩, t)
  | .memwrite _ pos valor => do
    let (status, t) ← memwrite cfg pos valor t
    .ok (⟨status, none, none⟩, t)
  | .memread _ pos buffer => do
    let (r, t) ← memread cfg pos buffer t
    .ok (⟨r.1, none, some r.2⟩, t)
  | .memfree _ pos => do
    let (status, t) ← memfree cfg pos t
    .ok (⟨status, none, none⟩, t)
  | .memfreeAll _ => .error .operandoInexistente

end Solitario

end Carpinchos.Memoria
