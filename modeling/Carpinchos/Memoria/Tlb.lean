import Carpinchos.Memoria.Estado

/-!
# The TLB functions

Lookup, victim selection and update of the translation table. An entry handed to
`vaciar_pagina_tlb` is named by its `entrada`; the list itself is sorted in place
by the two replacement policies.
-/

namespace Carpinchos.Memoria

open Estado

section Consultas

def esEntradaDe (p : ℕ) (s : Estado) (t : Tlb) : Bool :=
  t.pid = (s.descriptor p).carpinchoPid ∧ t.pagina = (s.descriptor p).pagina

/-- `pagina_is_in_tlb`; the source returns -1, which is true, on duplicates. -/
def paginaIsInTlb (p : ℕ) (s : Estado) : Bool := s.tlbList.any (esEntradaDe p s)

def getTlbItem (p : ℕ) (s : Estado) : Option Tlb := s.tlbList.find? (esEntradaDe p s)

def isMarcoInTlb (marco : ℤ) (s : Estado) : Bool := s.tlbList.any fun t => t.marco = marco

def getTlbItemByMarcoNumber (marco : ℤ) (s : Estado) : Option Tlb :=
  s.tlbList.find? fun t => t.marco = marco

def anyTlbItemIsFree (s : Estado) : Bool := s.tlbList.any fun t => t.pid = 0

def getNextFreeTlbItem (s : Estado) : Option Tlb := s.tlbList.find? fun t => t.pid = 0

end Consultas

def Tlb.vacia (t : Tlb) : Tlb := { t with pid := 0, pagina := 0, marco := -1 }

def vaciarPaginaTlb (entrada : ℕ) (s : Estado) : Estado := s.setTlb entrada Tlb.vacia

/-- `vaciar_pagina_tlb` applied to a page descriptor: the fields of `t_tlb` fall on
`carpincho_pid`, `pagina` and `bit_presencia`, and -1 is a true `bit_presencia`. -/
def vaciarPaginaComoTlb (p : ℕ) (s : Estado) : Estado :=
  s.setPagina p fun q => { q with carpinchoPid := 0, pagina := 0, bitPresencia := true }

section Reemplazo

variable (E : Entorno)

/-- `list_sort` by a numeric field, smallest first. -/
def ordenarPor {α : Type} (clave : α → ℤ) (l : List α) : List α :=
  E.listSort (fun a b => decide (clave a < clave b)) l

def proximaPaginaASacarTlbByLru (s : Estado) : Except Falla (Tlb × Estado) :=
  if anyTlbItemIsFree s then
    match getNextFreeTlbItem s with
    | none => .error .punteroNulo
    | some t => .ok (t, s)
  else
    let porEntrada := ordenarPor E (fun t : Tlb => t.entrada) s.tlbList
    let s := { s with tlbList := ordenarPor E (fun t : Tlb => t.timestamp) porEntrada }
    match listGet s.tlbList 0 with
    | none => .error .punteroNulo
    | some t => .ok (t, s)

def proximaPaginaASacarTlbByFifo (s : Estado) : Except Falla (Tlb × Estado) :=
  if anyTlbItemIsFree s then
    match getNextFreeTlbItem s with
    | none => .error .punteroNulo
    | some t => .ok (t, s)
  else
    let s := { s with tlbList := ordenarPor E (fun t : Tlb => t.entrada) s.tlbList }
    match listGet s.tlbList s.tlbFifoPointer with
    | none => .error .punteroNulo
    | some t =>
      let siguiente := s.tlbFifoPointer + 1
      let siguiente := if E.config.cantidaEntradasTlb < siguiente + 1 then 0 else siguiente
      .ok (t, { s with tlbFifoPointer := siguiente })

def proximaPaginaASacarTlb (s : Estado) : Except Falla (Tlb × Estado) :=
  match E.config.algoritmoReemplazoTlb with
  | .lru => proximaPaginaASacarTlbByLru E s
  | .fifo => proximaPaginaASacarTlbByFifo E s

end Reemplazo

def cargarPaginaPaginaTlb (p : ℕ) (marco : ℤ) (s : Estado) : Except Falla Estado :=
  match getNextFreeTlbItem s with
  | none => .error .punteroNulo
  | some t => do
    let pagina := s.descriptor p
    let (ts, s) ← obtenerTimeStampTLB s
    .ok (s.setTlb t.entrada fun t =>
      { t with pid := pagina.carpinchoPid, pagina := pagina.pagina, marco := marco,
               timestamp := ts })

/-- The branch of `actualizar_tlb` for a frame that already has an entry: it looks up
the page numbered by the pid of that entry and clears it as if it were an entry. -/
def actualizarTlbMarcoPresente (marco : ℤ) (s : Estado) : Except Falla Estado :=
  match getTlbItemByMarcoNumber marco s with
  | none => .error .punteroNulo
  | some t => do
    let pagina ← getPageByInts t.pid t.pid s
    match pagina with
    | none => .error .punteroNulo
    | some p => .ok (vaciarPaginaComoTlb p { s with ramas := s.ramas ++ [.marcoEnTlb] })

def actualizarTlb (E : Entorno) (p : ℕ) (marco : ℤ) (s : Estado) : Except Falla Estado :=
  if marco = -1 then .ok s
  else if isMarcoInTlb marco s then actualizarTlbMarcoPresente marco s
  else do
    let (saliente, s) ← proximaPaginaASacarTlb E s
    cargarPaginaPaginaTlb p marco (vaciarPaginaTlb saliente.entrada s)

section Aciertos

def tlbHit (p : ℕ) (s : Estado) : Except Falla Estado :=
  match getCarpincho (s.descriptor p).carpinchoPid s with
  | none => .error .punteroNulo
  | some c => do
    let hits ← incrementar c.tlbHits
    let totales ← incrementar s.tlbHitsTotales
    let s := s.setCarpincho c.pid fun c => { c with tlbHits := hits }
    .ok { s with tlbHitsTotales := totales }

def tlbMiss (p : ℕ) (s : Estado) : Except Falla Estado :=
  match getCarpincho (s.descriptor p).carpinchoPid s with
  | none => .error .punteroNulo
  | some c => do
    let miss ← incrementar c.tlbMiss
    let totales ← incrementar s.tlbMissTotales
    let s := s.setCarpincho c.pid fun c => { c with tlbMiss := miss }
    .ok { s with tlbMissTotales := totales }

/-- Under TLB LRU, stamp the entry of the page. The stamp comes from the counter of
the frames, not from the one of the TLB. -/
def refrescarTlb (E : Entorno) (p : ℕ) (s : Estado) : Except Falla Estado :=
  match E.config.algoritmoReemplazoTlb with
  | .fifo => .ok s
  | .lru =>
    match getTlbItem p s with
    | none => .error .punteroNulo
    | some t => do
      let (ts, s) ← obtenerTimeStamp s
      .ok (s.setTlb t.entrada fun t => { t with timestamp := ts })

end Aciertos

end Carpinchos.Memoria
