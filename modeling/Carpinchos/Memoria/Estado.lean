import Carpinchos.Library.Bytes
import Carpinchos.Library.Runs

/-!
# The state of the memory module

The globals of the memory module become the fields of one record that every
operation takes and returns. Page descriptors are reached through pointers in
the source, so they live in a store indexed by the order of their `malloc` and
the lists hold the indices. A frame is identified by its number and a TLB entry
by `entrada`, neither of which changes after `create_marcos` and `create_tlb`.

Logging, the debug printouts and the delays are not part of the state.
-/

namespace Carpinchos.Memoria

open Bytes

/-- Why a call has no result. The first seven are undefined in C or never return;
`operandoInexistente` is a call on a page or carpincho that was never created, and
`transferenciaRechazada` is a refused page transfer, at which only the machine
without TLB stops. -/
inductive Falla
  | punteroNulo
  | candidatosVacios
  | sinRetorno
  | desbordamiento
  | memoriaLiberada
  | recursionInfinita
  | fueraDeCache
  | operandoInexistente
  | transferenciaRechazada
  deriving DecidableEq, Repr

inductive TipoAsignacion
  | fija
  | dinamica
  deriving DecidableEq, Repr

inductive AlgoritmoMmu
  | lru
  | mClock
  deriving DecidableEq, Repr

inductive AlgoritmoTlb
  | lru
  | fifo
  deriving DecidableEq, Repr

/-- The fields of `t_config_memoria` that the paging code reads. -/
structure Config where
  tamanio : ℕ
  tamanioPagina : ℕ
  tipoAsignacion : TipoAsignacion
  algoritmoReemplazoMmu : AlgoritmoMmu
  cantidaEntradasTlb : ℕ
  algoritmoReemplazoTlb : AlgoritmoTlb
  marcosPorCarpincho : ℕ
  pagina_pos : 0 < tamanioPagina
  tamanio_lt : tamanio < 2 ^ 32
  pagina_lt : tamanioPagina < 2 ^ 32

def Config.cantidadMarcos (cfg : Config) : ℕ := cfg.tamanio / cfg.tamanioPagina

/-- Requests to SWAmP in the order in which they are sent. -/
inductive Mensaje
  | escritura (pid pagina : ℤ) (contenido : List UInt8)
  | lectura (pid pagina : ℤ)
  | consulta (pid cantPag : ℤ)
  deriving DecidableEq, Repr

/-- What the module takes from outside: its configuration, `list_sort` of the
commons library, and SWAmP as a strategy that answers from the requests received
so far. A page that SWAmP serves has the size of a page. -/
structure Entorno where
  config : Config
  listSort : {α : Type} → (α → α → Bool) → List α → List α
  listSort_perm : ∀ {α : Type} (menor : α → α → Bool) (l : List α), (listSort menor l).Perm l
  listSort_sorted : ∀ {α : Type} (clave : α → ℤ) (l : List α),
    (listSort (fun a b => decide (clave a < clave b)) l).Pairwise (fun a b => clave a ≤ clave b)
  leerSwamp : List Mensaje → ℤ → ℤ → Option (List UInt8)
  leerSwamp_length : ∀ historia pid pagina contenido,
    leerSwamp historia pid pagina = some contenido → contenido.length = config.tamanioPagina
  puedeEscribirSwamp : List Mensaje → ℤ → ℤ → ℤ

/-- `t_pagina`, with a mark for a descriptor that has been freed. -/
structure Pagina where
  marco : ℤ
  carpinchoPid : ℤ
  pagina : ℤ
  bitPresencia : Bool
  bitDeUso : Bool
  bitDeModificacion : Bool
  timestamp : ℕ
  liberada : Bool

structure Marco where
  marco : ℤ
  isFree : Bool
  pagina : ℤ
  pid : ℤ
  deriving DecidableEq, Repr

/-- `t_tlb`. An empty entry has pid 0. -/
structure Tlb where
  entrada : ℕ
  pid : ℤ
  pagina : ℤ
  marco : ℤ
  timestamp : ℕ
  deriving DecidableEq, Repr

structure Alloc where
  direccion : ℕ
  isFree : Bool
  tamanioData : ℤ
  deriving DecidableEq, Repr

/-- `t_carpincho`; `paginas` holds pointers to descriptors. -/
structure Carpincho where
  pid : ℤ
  tlbHits : ℕ
  tlbMiss : ℕ
  algoritmStackPointer : ℕ
  paginas : List ℕ
  allocs : List Alloc

/-- Branches of the TLB code that a run records when it takes them. -/
inductive Rama
  | reparacionTlb
  | marcoEnTlb
  deriving DecidableEq, Repr

/-- The globals of the module. `ramas` and `mensajes` are histories: nothing in the
module reads the first, and only SWAmP reads the second. -/
structure Estado where
  cache : Mem
  marcosList : List Marco
  carpinchosList : List Carpincho
  tlbList : List Tlb
  descriptor : ℕ → Pagina
  proximoPtr : ℕ
  contadorTimestamp : ℕ
  contadorTimestampTlb : ℕ
  tlbHitsTotales : ℕ
  tlbMissTotales : ℕ
  algoritmStackPointer : ℕ
  tlbFifoPointer : ℕ
  mensajes : List Mensaje
  ramas : List Rama

/-- `list_get` of the commons library: `NULL` out of range. -/
def listGet {α : Type} (l : List α) (i : ℤ) : Option α :=
  if 0 ≤ i then l[i.toNat]? else none

/-- Adding one to a non-negative `int`; passing `INT_MAX` is undefined. -/
def incrementar (x : ℕ) : Except Falla ℕ :=
  if x + 1 < 2 ^ 31 then .ok (x + 1) else .error .desbordamiento

/-- `'_'`, with which an empty frame is filled. -/
def guion : UInt8 := 95

namespace Estado

def setPagina (p : ℕ) (f : Pagina → Pagina) (s : Estado) : Estado :=
  { s with descriptor := Function.update s.descriptor p (f (s.descriptor p)) }

def setMarco (numero : ℤ) (f : Marco → Marco) (s : Estado) : Estado :=
  { s with marcosList := s.marcosList.map fun m => if m.marco = numero then f m else m }

def setTlb (entrada : ℕ) (f : Tlb → Tlb) (s : Estado) : Estado :=
  { s with tlbList := s.tlbList.map fun t => if t.entrada = entrada then f t else t }

def setCarpincho (pid : ℤ) (f : Carpincho → Carpincho) (s : Estado) : Estado :=
  { s with carpinchosList := s.carpinchosList.map fun c => if c.pid = pid then f c else c }

theorem map_setCarpincho {β : Type} {g : Carpincho → β} {f : Carpincho → Carpincho}
    (hf : ∀ c, g (f c) = g c) (pid : ℤ) (s : Estado) :
    (s.setCarpincho pid f).carpinchosList.map g = s.carpinchosList.map g := by
  simp only [setCarpincho, List.map_map]
  apply List.map_congr_left
  intro c _
  simp only [Function.comp_apply]
  split
  · exact hf c
  · rfl

end Estado

def obtenerTimeStamp (s : Estado) : Except Falla (ℕ × Estado) := do
  let c ← incrementar s.contadorTimestamp
  .ok (s.contadorTimestamp, { s with contadorTimestamp := c })

def obtenerTimeStampTLB (s : Estado) : Except Falla (ℕ × Estado) := do
  let c ← incrementar s.contadorTimestampTlb
  .ok (s.contadorTimestampTlb, { s with contadorTimestampTlb := c })

section Carpinchos

def getCarpincho (pid : ℤ) (s : Estado) : Option Carpincho :=
  s.carpinchosList.find? fun c => c.pid = pid

def existCarpincho (pid : ℤ) (s : Estado) : Bool :=
  s.carpinchosList.any fun c => c.pid = pid

def createCarpincho (pid : ℤ) (s : Estado) : Estado :=
  if existCarpincho pid s then s
  else
    let carpincho : Carpincho :=
      { pid := pid, tlbHits := 0, tlbMiss := 0, algoritmStackPointer := 0, paginas := [],
        allocs := [] }
    { s with carpinchosList := s.carpinchosList ++ [carpincho] }

end Carpinchos

/-- Reading through freed page pointers has no meaning. -/
def paginasLegibles (paginas : List ℕ) (s : Estado) : Except Falla Unit :=
  if paginas.any fun p => (s.descriptor p).liberada then .error .memoriaLiberada else .ok ()

/-- `get_page`: the first page of the carpincho with its pid and the given number. -/
def getPage (carpincho : Carpincho) (pagina : ℤ) (s : Estado) : Except Falla (Option ℕ) := do
  paginasLegibles carpincho.paginas s
  .ok (carpincho.paginas.find? fun p =>
    (s.descriptor p).carpinchoPid = carpincho.pid ∧ (s.descriptor p).pagina = pagina)

def getPageByInts (pid pagina : ℤ) (s : Estado) : Except Falla (Option ℕ) :=
  match getCarpincho pid s with
  | none => .error .punteroNulo
  | some carpincho => getPage carpincho pagina s

def createMarcos (cfg : Config) : List Marco :=
  (List.range cfg.cantidadMarcos).map fun i : ℕ =>
    { marco := i, isFree := true, pagina := 0, pid := 0 }

/-- `create_tlb`. Only the LRU policy draws timestamps for the empty entries; under
FIFO they stay uninitialised and are never read. -/
def createTlb (cfg : Config) : List Tlb :=
  (List.range cfg.cantidaEntradasTlb).map fun i =>
    { entrada := i, pid := 0, pagina := 0, marco := -1, timestamp := i }

/-- `inicializarMemoria`. The descriptor store starts with arbitrary contents. -/
def inicializarMemoria (cfg : Config) (basura : ℕ → Pagina) : Estado where
  cache := fun _ => guion
  marcosList := createMarcos cfg
  carpinchosList := []
  tlbList := createTlb cfg
  descriptor := basura
  proximoPtr := 0
  contadorTimestamp := 0
  contadorTimestampTlb :=
    match cfg.algoritmoReemplazoTlb with
    | .lru => cfg.cantidaEntradasTlb
    | .fifo => 0
  tlbHitsTotales := 0
  tlbMissTotales := 0
  algoritmStackPointer := 0
  tlbFifoPointer := 0
  mensajes := []
  ramas := []

end Carpinchos.Memoria
