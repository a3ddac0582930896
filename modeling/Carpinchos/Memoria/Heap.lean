import Carpinchos.Library.Wire
import Carpinchos.Memoria.Paginacion

/-!
# The heap of a carpincho

A carpincho sees its pages as one space of addresses, divided into allocs with nine bytes
of metadata each. The functions here work on the list of allocs alone. The source mixes
`int` and `uint32_t`, so a conversion is written wherever the compiler makes one, and `int`
arithmetic that overflows has no result.
-/

namespace Carpinchos.Memoria

section Enteros

@[irreducible] def aUint32 (x : ℤ) : ℕ := (x % 2 ^ 32).toNat

@[irreducible] def aInt (x : ℤ) : ℤ := (x + 2 ^ 31) % 2 ^ 32 - 2 ^ 31

/-- The result of an operation between values of type `int`. -/
@[irreducible] def enInt (x : ℤ) : Except Falla ℤ :=
  if -2 ^ 31 ≤ x ∧ x < 2 ^ 31 then .ok x else .error .desbordamiento

theorem aUint32_lt (x : ℤ) : aUint32 x < 2 ^ 32 := by
  unfold aUint32
  omega

theorem aUint32_of_range {x : ℤ} (h : 0 ≤ x) (h' : x < 2 ^ 32) : (aUint32 x : ℤ) = x := by
  unfold aUint32
  omega

theorem aUint32_natCast {n : ℕ} (h : n < 2 ^ 32) : aUint32 n = n := by
  unfold aUint32
  omega

theorem aInt_of_range {x : ℤ} (h : -2 ^ 31 ≤ x) (h' : x < 2 ^ 31) : aInt x = x := by
  unfold aInt
  omega

theorem aInt_le {x : ℤ} (h : -2 ^ 31 ≤ x) : aInt x ≤ x := by
  unfold aInt
  omega

theorem enInt_eq_ok {x y : ℤ} : enInt x = .ok y ↔ (-2 ^ 31 ≤ x ∧ x < 2 ^ 31) ∧ x = y := by
  unfold enInt
  split <;> simp_all

end Enteros

inductive StatusMemoryOp
  | exito
  | sinEspacio
  | direccionInvalida
  deriving DecidableEq, Repr

inductive CheckAllocRespuesta
  | allocHeap
  | allocPagina
  | allocSolicitarPagina
  | allocSinEspacio
  deriving DecidableEq, Repr

section Espacio

variable (cfg : Config)

/-- `list_size(paginas) * tamanio_pagina`. -/
def espacioTotal (paginas : ℕ) : ℤ := aInt (paginas * cfg.tamanioPagina)

/-- `calcular_cantidad_paginas_necesaria`; the division is one of `uint32_t`. -/
def calcularCantidadPaginasNecesaria (espacioLibreActual tamanioDato : ℤ) : Except Falla ℤ := do
  let tamanio ← enInt (tamanioDato + 9)
  let espacioNecesario ← enInt (tamanio - espacioLibreActual)
  if aUint32 espacioNecesario % cfg.tamanioPagina = 0 then
    .ok (aInt (aUint32 espacioNecesario / cfg.tamanioPagina : ℕ))
  else .ok (aInt (aUint32 espacioNecesario / cfg.tamanioPagina + 1 : ℕ))

/-- The loop of `check_alloc`: `none` when it meets a free alloc of this size, else the
space that the allocs take. -/
def recorrerAllocs (size : ℤ) : List Alloc → ℤ → Except Falla (Option ℤ)
  | [], espacioOcupado => .ok (some espacioOcupado)
  | alloc :: allocs, espacioOcupado =>
    if alloc.isFree = true ∧ size ≤ alloc.tamanioData then .ok none
    else do
      let espacioOcupado ← enInt (espacioOcupado + alloc.tamanioData)
      let espacioOcupado ← enInt (espacioOcupado + 9)
      recorrerAllocs size allocs espacioOcupado

/-- The loop of `memalloc_asignar_en_paginas_nuevas`. -/
def sumarAllocs : List Alloc → ℤ → Except Falla ℤ
  | [], espacioOcupado => .ok espacioOcupado
  | alloc :: allocs, espacioOcupado => do
    let espacioOcupado ← enInt (espacioOcupado + alloc.tamanioData)
    let espacioOcupado ← enInt (espacioOcupado + 9)
    sumarAllocs allocs espacioOcupado

end Espacio

section Asignacion

def crearAlloc (dir : ℕ) (dataSize : ℤ) (isFree : Bool) : Alloc :=
  { direccion := dir, isFree := isFree, tamanioData := dataSize }

/-- `list_get_index_alloc`: a local variable hides the alloc that is looked for, and the
loop ends at the first position. -/
def listGetIndexAlloc (allocs : List Alloc) : ℤ := if allocs = [] then -1 else 0

/-- `buscar_alloc_libre_con_espacio`, which compares in `uint32_t`. -/
def Alloc.libreConEspacio (size : ℕ) (alloc : Alloc) : Bool :=
  alloc.isFree && decide (size ≤ aUint32 alloc.tamanioData)

/-- The block that is left at the right of a truncated one. -/
def Alloc.sobrante (size : ℕ) (alloc : Alloc) : Alloc :=
  crearAlloc (aUint32 (alloc.direccion + size + 9)) (aInt (alloc.tamanioData - size - 9)) true

/-- A block is truncated when more than the metadata would be left. -/
def Alloc.seTrunca (size : ℕ) (alloc : Alloc) : Bool :=
  decide (size < aUint32 alloc.tamanioData) && decide (9 < aUint32 (alloc.tamanioData - size))

/-- What `memalloc_asignar_en_heap_libre` leaves: the allocs, the one it creates if it
truncates, and the address of the data. -/
structure Asignado where
  allocs : List Alloc
  nuevoAlloc : Option Alloc
  direccion : ℕ

/-- `memalloc_asignar_en_heap_libre`, up to the writing of the metadata. -/
def asignarEnHeapLibre (size : ℕ) (allocs : List Alloc) : Except Falla Asignado :=
  let previos := allocs.takeWhile fun alloc => !alloc.libreConEspacio size
  match allocs.dropWhile fun alloc => !alloc.libreConEspacio size with
  | [] => .error .punteroNulo
  | alloc :: siguientes =>
    let direccion := aUint32 (alloc.direccion + 9)
    if alloc.seTrunca size then
      let alloc' := { alloc with tamanioData := aInt size, isFree := false }
      let indice := (listGetIndexAlloc allocs + 1).toNat
      .ok {
        allocs := (previos ++ alloc' :: siguientes).insertIdx indice (alloc.sobrante size)
        nuevoAlloc := some (alloc.sobrante size)
        direccion := direccion }
    else
      .ok {
        allocs := previos ++ { alloc with isFree := false } :: siguientes
        nuevoAlloc := none
        direccion := direccion }

/-- Where the data of the next alloc at the end begins. -/
def inicioDatoAlFinal (allocs : List Alloc) : ℕ :=
  match allocs.getLast? with
  | none => 9
  | some ultimoAlloc => aUint32 (ultimoAlloc.direccion + 9 + ultimoAlloc.tamanioData + 9)

/-- The alloc that `memalloc_asignar_en_pagina_con_espacio` adds. -/
def allocAlFinal (size : ℕ) (allocs : List Alloc) : Alloc :=
  crearAlloc (aUint32 (inicioDatoAlFinal allocs - 9)) (aInt size) false

end Asignacion

section Busqueda

/-- The first and last address of the data. -/
def Alloc.inicioDato (alloc : Alloc) : ℕ := aUint32 (alloc.direccion + 9)

def Alloc.finDato (alloc : Alloc) : ℕ := aUint32 (alloc.inicioDato + alloc.tamanioData - 1)

/-- The address is one of the data of the alloc. -/
def Alloc.contieneDato (abs : ℕ) (alloc : Alloc) : Bool :=
  decide (alloc.inicioDato ≤ abs) && decide (abs ≤ alloc.finDato)

def obtenerAllocDeUnCarpincho (allocs : List Alloc) (abs : ℕ) : Option Alloc :=
  allocs.find? (Alloc.contieneDato abs)

/-- `obtener_indice_de_alloc`. The loop goes one past the end, where it follows `NULL`. -/
def obtenerIndiceDeAlloc (allocs : List Alloc) (direccion : ℕ) : Except Falla ℕ :=
  match allocs.findIdx? fun alloc => alloc.direccion = direccion with
  | some i => .ok i
  | none => .error .punteroNulo

variable (cfg : Config) (paginas : ℕ)

/-- `validar_direccion_logica`; with no page the last one is 2^32 - 1. -/
def validarDireccionLogica (abs : ℕ) : Bool :=
  decide (abs / cfg.tamanioPagina ≤ aUint32 (paginas - 1)) &&
    decide (abs % cfg.tamanioPagina ≤ cfg.tamanioPagina - 1)

def validarDireccionLogicaEscritura (allocs : List Alloc) (abs : ℕ) : Bool :=
  validarDireccionLogica cfg paginas abs && allocs.any (Alloc.contieneDato abs)

def validarDireccionLogicaEscrituraConSize (allocs : List Alloc) (abs size : ℕ) : Bool :=
  (List.range size).all fun i =>
    validarDireccionLogicaEscritura cfg paginas allocs (aUint32 (abs + i))

end Busqueda

section Liberacion

/-- The left neighbour is free: the block starts where it does and takes its space. -/
def unificarIzquierda (previos : List Alloc) (alloc : Alloc) :
    Except Falla (List Alloc × Alloc) :=
  match previos.getLast? with
  | some allocPrev =>
    if allocPrev.isFree then do
      let tamanio ← enInt (allocPrev.tamanioData + alloc.tamanioData)
      let tamanio ← enInt (tamanio + 9)
      .ok (previos.dropLast,
        { alloc with direccion := allocPrev.direccion, tamanioData := tamanio })
    else .ok (previos, alloc)
  | none => .ok (previos, alloc)

/-- The right neighbour is free: the block takes its space. -/
def unificarDerecha (alloc : Alloc) : List Alloc → Except Falla (Alloc × List Alloc)
  | [] => .ok (alloc, [])
  | allocNext :: siguientes =>
    if allocNext.isFree then do
      let tamanio ← enInt (allocNext.tamanioData + alloc.tamanioData)
      let tamanio ← enInt (tamanio + 9)
      .ok ({ alloc with tamanioData := tamanio }, siguientes)
    else .ok (alloc, allocNext :: siguientes)

/-- The part of `memory_memfree` that works on the allocs: they and the free block, or
`none` where the address is not that of an alloc in use. -/
def liberarAlloc (allocs : List Alloc) (pos : ℕ) : Except Falla (Option (List Alloc × Alloc)) :=
  let previos := allocs.takeWhile fun alloc => !decide (pos = alloc.inicioDato)
  match allocs.dropWhile fun alloc => !decide (pos = alloc.inicioDato) with
  | [] => .ok none
  | alloc :: siguientes =>
    if alloc.isFree then .ok none
    else do
      let (previos, alloc) ← unificarIzquierda previos { alloc with isFree := true }
      let (alloc, siguientes) ← unificarDerecha alloc siguientes
      .ok (some (previos ++ alloc :: siguientes, alloc))

end Liberacion

section Compactacion

variable (cfg : Config)

/-- `alloc_esta_en_pagina`. The loop adds the address of the alloc to its limit, and its
counter is an `int`. -/
def allocEstaEnPagina (alloc : Alloc) (numPag : ℤ) : Except Falla Bool :=
  let limite := aUint32 (alloc.direccion + 9 + alloc.tamanioData - 1)
  if (List.range (min (limite + 1) (2 ^ 31))).any fun i : ℕ =>
      decide (aInt (aUint32 (alloc.direccion + i) / cfg.tamanioPagina : ℕ) = numPag) then .ok true
  else if limite + 1 < 2 ^ 31 then .ok false
  else .error .desbordamiento

/-- `obtener_todos_los_allocs_de_carpincho_de_una_pagina`. -/
def allocsDePagina (indexPag : ℤ) : List Alloc → Except Falla (List Alloc)
  | [] => .ok []
  | alloc :: allocs => do
    let esta ← allocEstaEnPagina cfg alloc indexPag
    let resto ← allocsDePagina indexPag allocs
    .ok (if esta then alloc :: resto else resto)

def todosLosAllocsEstanLibres (allocs : List Alloc) : Bool :=
  !allocs.isEmpty && allocs.all Alloc.isFree

/-- The loop of `compactar_pagina` that removes the allocs of the page. It keeps the length
of the last one only. -/
def borrarAllocs : List Alloc → List Alloc → ℤ → Except Falla (List Alloc × ℤ)
  | [], allocs, acumEspacioLiberado => .ok (allocs, acumEspacioLiberado)
  | allocBorrar :: resto, allocs, _ => do
    let acumEspacioLiberado ← enInt (allocBorrar.tamanioData + 9)
    let indice ← obtenerIndiceDeAlloc allocs allocBorrar.direccion
    borrarAllocs resto (allocs.eraseIdx indice) acumEspacioLiberado

/-- The allocs from a position on go down. -/
def correrAllocs (desde : ℕ) (espacio : ℤ) (allocs : List Alloc) : List Alloc :=
  allocs.take desde ++ (allocs.drop desde).map fun alloc =>
    { alloc with direccion := aUint32 (alloc.direccion - espacio) }

/-- `compactar_pagina`, on the allocs. -/
def compactarAllocs (deLaPagina allocs : List Alloc) : Except Falla (List Alloc) := do
  let (allocs, acumEspacioLiberado) ← borrarAllocs deLaPagina allocs 0
  if 0 < acumEspacioLiberado then
    .ok (correrAllocs (deLaPagina.length - 1) acumEspacioLiberado allocs)
  else .ok allocs

end Compactacion

end Carpinchos.Memoria
