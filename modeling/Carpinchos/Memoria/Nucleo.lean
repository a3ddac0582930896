import Carpinchos.Library.Replacement
import Carpinchos.Memoria.Paginacion

/-!
# Paged memory without a TLB

What the paging code is for, with the translation table left out: a page is in at
most one frame, an access brings it into one, and a full memory gives up the page
chosen by the replacement policy. The frame table is a function from frames to the
pages they hold, and the time stamps of LRU are replaced by the order of last use.

The machine does not depend on the TLB configuration: its parameters are the other
settings and SWAmP.
-/

namespace Carpinchos.Memoria

open Bytes Replacement

/-- The settings that are not about the TLB, and SWAmP's answers. -/
structure Parametros where
  cantidadMarcos : ℕ
  tamanioPagina : ℕ
  tipoAsignacion : TipoAsignacion
  algoritmoReemplazoMmu : AlgoritmoMmu
  marcosPorCarpincho : ℕ
  leerSwamp : List Mensaje → ℤ → ℤ → Option (List UInt8)

def Entorno.parametros (E : Entorno) : Parametros where
  cantidadMarcos := E.config.cantidadMarcos
  tamanioPagina := E.config.tamanioPagina
  tipoAsignacion := E.config.tipoAsignacion
  algoritmoReemplazoMmu := E.config.algoritmoReemplazoMmu
  marcosPorCarpincho := E.config.marcosPorCarpincho
  leerSwamp := E.leerSwamp

/-- A carpincho: its pid, the hand of its clock and its pages in order of creation. -/
structure Proceso where
  pid : ℤ
  puntero : ℕ
  paginas : List ℕ

/-- Pages are named by their descriptors; `nombre` gives the pid and the number that
the messages to SWAmP carry. -/
structure Nucleo where
  cache : Mem
  marcos : ℕ → Option ℕ
  procesos : List Proceso
  nombre : ℕ → ℤ × ℤ
  uso : ℕ → Bool
  modificada : ℕ → Bool
  orden : List ℕ
  puntero : ℕ
  proximoPtr : ℕ
  mensajes : List Mensaje

namespace Nucleo

variable (π : Parametros)

section Consultas

def residentes (n : Nucleo) : List ℕ := (List.range π.cantidadMarcos).filterMap n.marcos

def marcoDe (p : ℕ) (n : Nucleo) : Option ℕ :=
  (List.range π.cantidadMarcos).find? fun k => n.marcos k = some p

def marcoLibre (n : Nucleo) : Option ℕ :=
  (List.range π.cantidadMarcos).find? fun k => n.marcos k = none

def esDe (pid : ℤ) (n : Nucleo) (p : ℕ) : Bool := (n.nombre p).1 = pid

def proceso (pid : ℤ) (n : Nucleo) : Option Proceso := n.procesos.find? fun c => c.pid = pid

def existe (n : Nucleo) (p : ℕ) : Prop := ∃ c ∈ n.procesos, p ∈ c.paginas

def candidatos (pid : ℤ) (n : Nucleo) : List ℕ :=
  match π.tipoAsignacion with
  | .fija => (n.residentes π).filter (n.esDe pid)
  | .dinamica => n.residentes π

end Consultas

section Reemplazo

def setProceso (pid : ℤ) (f : Proceso → Proceso) (n : Nucleo) : Nucleo :=
  { n with procesos := n.procesos.map fun c => if c.pid = pid then f c else c }

def manecilla (pid : ℤ) (n : Nucleo) : Option ℕ :=
  match π.tipoAsignacion with
  | .fija => (n.proceso pid).map Proceso.puntero
  | .dinamica => some n.puntero

def ponerManecilla (pid : ℤ) (j total : ℕ) (n : Nucleo) : Nucleo :=
  let posicion := if total ≤ j + 1 then 0 else j + 1
  match π.tipoAsignacion with
  | .fija => n.setProceso pid fun c => { c with puntero := posicion }
  | .dinamica => { n with puntero := posicion }

def elegirLru (pid : ℤ) (n : Nucleo) : Except Falla (ℕ × Nucleo) :=
  match n.orden.filter fun p => decide (p ∈ n.candidatos π pid) with
  | [] => .error .candidatosVacios
  | v :: _ => .ok (v, n)

def elegirMClock (pid : ℤ) (n : Nucleo) : Except Falla (ℕ × Nucleo) :=
  if n.candidatos π pid = [] then .error .candidatosVacios
  else
    match n.manecilla π pid with
    | none => .error .punteroNulo
    | some last =>
      match search n.modificada ((n.candidatos π pid).drop last) last cuatroPasadas n.uso with
      | (none, _) => .error .sinRetorno
      | (some (v, j), uso) =>
        .ok (v, { n with uso := uso }.ponerManecilla π pid j (n.candidatos π pid).length)

def elegir (pid : ℤ) (n : Nucleo) : Except Falla (ℕ × Nucleo) :=
  match π.algoritmoReemplazoMmu with
  | .lru => n.elegirLru π pid
  | .mClock => n.elegirMClock π pid

/-- The victim's bytes go to SWAmP, unless M-CLOCK takes the page for unmodified. -/
def guardar (v k : ℕ) (n : Nucleo) : Nucleo :=
  if π.algoritmoReemplazoMmu = .mClock ∧ n.modificada v = false then n
  else
    { n with
      mensajes := n.mensajes ++
        [.escritura (n.nombre v).1 (n.nombre v).2
          (slice n.cache (k * π.tamanioPagina) π.tamanioPagina)] }

/-- Frame `k` passes, cleared, from the page `v` to the page `p`. -/
def reemplazar (v k p : ℕ) (n : Nucleo) : Nucleo :=
  let n := n.guardar π v k
  { n with
    cache := fill n.cache (k * π.tamanioPagina) π.tamanioPagina guion
    marcos := Function.update n.marcos k (some p)
    orden := n.orden.erase v }

/-- Give the page `p` of the carpincho `pid` the frame of a victim. -/
def desalojarPara (pid : ℤ) (p : ℕ) (n : Nucleo) : Except Falla (ℕ × Nucleo) := do
  let (v, n) ← n.elegir π pid
  match n.marcoDe π v with
  | none => .error .punteroNulo
  | some k => .ok (k, n.reemplazar π v k p)

end Reemplazo

section Acceso

def recuperar (p : ℕ) (n : Nucleo) : Except Falla (ℕ × Nucleo) := do
  let (k, n) ← n.desalojarPara π (n.nombre p).1 p
  match π.leerSwamp n.mensajes (n.nombre p).1 (n.nombre p).2 with
  | none => .error .transferenciaRechazada
  | some contenido =>
    .ok (k, { n with
      cache := copy n.cache (k * π.tamanioPagina) contenido
      mensajes := n.mensajes ++ [.lectura (n.nombre p).1 (n.nombre p).2] })

def traer (p : ℕ) (n : Nucleo) : Except Falla (ℕ × Nucleo) :=
  match n.marcoDe π p with
  | some k => .ok (k, n)
  | none => n.recuperar π p

/-- An access makes the page the last one used. -/
def marcar (esEscritura : Bool) (p : ℕ) (n : Nucleo) : Nucleo :=
  match π.algoritmoReemplazoMmu with
  | .lru => { n with orden := touch p n.orden }
  | .mClock =>
    { n with
      uso := Function.update n.uso p true
      modificada := Function.update n.modificada p (esEscritura || n.modificada p) }

/-- How an access ends: inside its page, refused by the bound check, or outside the
memory because the sum of the check wraps around. -/
inductive Alcance
  | enPagina
  | rechazado
  | fuera

def alcance (tamanioPagina offset tamanio : ℕ) : Alcance :=
  if offset + tamanio ≤ tamanioPagina then .enPagina
  else if tamanioPagina < (offset + tamanio) % 2 ^ 32 then .rechazado
  else .fuera

def leer (p tamanio offset : ℕ) (n : Nucleo) : Except Falla (Option (List UInt8) × Nucleo) := do
  let (k, n) ← n.traer π p
  match alcance π.tamanioPagina offset tamanio with
  | .enPagina =>
    .ok (some (slice n.cache (k * π.tamanioPagina + offset) tamanio), n.marcar π false p)
  | .rechazado => .ok (none, n.marcar π false p)
  | .fuera => .error .fueraDeCache

/-- M-CLOCK takes a page for modified even when the write has been refused. -/
def escribir (p : ℕ) (buffer : List UInt8) (offset : ℕ) (n : Nucleo) :
    Except Falla (ℤ × Nucleo) := do
  let (k, n) ← n.traer π p
  match alcance π.tamanioPagina offset buffer.length with
  | .enPagina =>
    .ok (0,
      { n with cache := copy n.cache (k * π.tamanioPagina + offset) buffer }.marcar π true p)
  | .rechazado => .ok (-1, n.marcar π true p)
  | .fuera => .error .fueraDeCache

end Acceso

section Creacion

/-- A carpincho may take a free frame; under FIJA only below its quota. -/
def puedeTomarMarco (pid : ℤ) (n : Nucleo) : Bool :=
  (n.marcoLibre π).isSome &&
    match π.tipoAsignacion with
    | .dinamica => true
    | .fija => decide (((n.residentes π).filter (n.esDe pid)).length < π.marcosPorCarpincho)

/-- The frame of a new page. -/
def alojarNueva (pid : ℤ) (p : ℕ) (n : Nucleo) : Except Falla (ℕ × Nucleo) :=
  if n.puedeTomarMarco π pid then
    match n.marcoLibre π with
    | none => .error .punteroNulo
    | some k => .ok (k, { n with marcos := Function.update n.marcos k (some p) })
  else n.desalojarPara π pid p

/-- Allocate the next page and give it its name. -/
def nombrar (pid numero : ℤ) (n : Nucleo) : Nucleo :=
  { n with
    proximoPtr := n.proximoPtr + 1
    nombre := Function.update n.nombre n.proximoPtr (pid, numero) }

/-- Enter a named page, already in its frame, into the tables. -/
def registrar (pid : ℤ) (p : ℕ) (n : Nucleo) : Nucleo :=
  let n := n.setProceso pid fun c => { c with paginas := c.paginas ++ [p] }
  match π.algoritmoReemplazoMmu with
  | .lru => { n with orden := n.orden ++ [p] }
  | .mClock =>
    { n with
      uso := Function.update n.uso p true
      modificada := Function.update n.modificada p false }

def crear (pid : ℤ) (n : Nucleo) : Except Falla (ℕ × Nucleo) :=
  match n.proceso pid with
  | none => .error .operandoInexistente
  | some c => do
    let (_, n') ← (n.nombrar pid (c.paginas.length + 1)).alojarNueva π pid n.proximoPtr
    .ok (n.proximoPtr, n'.registrar π pid n.proximoPtr)

def crearProceso (pid : ℤ) (n : Nucleo) : Nucleo :=
  if n.procesos.any fun c => c.pid = pid then n
  else { n with procesos := n.procesos ++ [{ pid := pid, puntero := 0, paginas := [] }] }

end Creacion

section Pasos

def buscar (pid pagina : ℤ) (n : Nucleo) : Except Falla ℕ :=
  match n.proceso pid with
  | none => .error .operandoInexistente
  | some c =>
    match c.paginas.find? fun p => n.nombre p = (pid, pagina) with
    | none => .error .operandoInexistente
    | some p => .ok p

def paso (op : Operacion) (n : Nucleo) : Except Falla (Resultado × Nucleo) :=
  match op with
  | .createCarpincho pid => .ok (.carpincho pid, n.crearProceso pid)
  | .createPagina pid => do
    let (p, n) ← n.crear π pid
    .ok (.pagina p, n)
  | .leerEnPagina pid pagina tamanio offset => do
    let p ← n.buscar pid pagina
    let (contenido, n) ← n.leer π p tamanio offset
    .ok (.bytes contenido, n)
  | .escribirEnPagina pid pagina buffer offset => do
    let p ← n.buscar pid pagina
    let (result, n) ← n.escribir π p buffer offset
    .ok (.codigo result, n)

def inicial : Nucleo where
  cache := fun _ => guion
  marcos := fun _ => none
  procesos := []
  nombre := fun _ => (0, 0)
  uso := fun _ => false
  modificada := fun _ => false
  orden := []
  puntero := 0
  proximoPtr := 0
  mensajes := []

end Pasos

end Nucleo

end Carpinchos.Memoria
