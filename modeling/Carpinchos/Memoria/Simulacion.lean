import Carpinchos.Memoria.NucleoPasos
import Carpinchos.Memoria.TlbInvariante

/-!
# The memory module represents a memory without TLB

`Sim` relates a state of the module to a state of the machine without TLB: the
frame table lists the frames of the machine, the descriptors carry its names, its
residence and its bits, and under LRU the time stamps increase along the order of
last use. The TLB has no counterpart and is required to agree with the frames.

The lookups of the module then compute the queries of the machine.
-/

namespace Carpinchos.Memoria

open Outcome Bytes Replacement Estado

/-- The entry of `marcos_list` for frame `k`. -/
def marcoReal (nombre : ℕ → ℤ × ℤ) (k : ℕ) : Option ℕ → Marco
  | none => { marco := k, isFree := true, pagina := 0, pid := 0 }
  | some p => { marco := k, isFree := false, pagina := (nombre p).2, pid := (nombre p).1 }

def tablaDeMarcos (N : ℕ) (nombre : ℕ → ℤ × ℤ) (marcos : ℕ → Option ℕ) : List Marco :=
  (List.range N).map fun k => marcoReal nombre k (marcos k)

def Carpincho.proceso (c : Carpincho) : Proceso :=
  { pid := c.pid, puntero := c.algoritmStackPointer, paginas := c.paginas }

/-- A descriptor carries the name of its page. LRU leaves its bits as they were. -/
structure Nombrada (π : Parametros) (nombre : ℤ × ℤ) (q : Pagina) : Prop where
  pid : q.carpinchoPid = nombre.1
  pagina : q.pagina = nombre.2
  viva : q.liberada = false
  limpia : π.algoritmoReemplazoMmu = .lru → q.bitDeUso = false ∧ q.bitDeModificacion = false

/-- Under M-CLOCK a descriptor carries the bits of its page. -/
def Bits (π : Parametros) (uso modificada : Bool) (q : Pagina) : Prop :=
  π.algoritmoReemplazoMmu = .mClock → q.bitDeUso = uso ∧ q.bitDeModificacion = modificada

/-- A descriptor says whether its page is in memory, and where. -/
structure Ubicada (marcos : ℕ → Option ℕ) (p : ℕ) (q : Pagina) : Prop where
  presencia : q.bitPresencia = true ↔ ∃ k, marcos k = some p
  marco : ∀ k, marcos k = some p → q.marco = k
  ausente : (∀ k, marcos k ≠ some p) → q.marco = 0

/-- Time stamps increase along the order of last use, and the next one is larger. -/
def Estampas (π : Parametros) (descriptor : ℕ → Pagina) (contador : ℕ) (orden : List ℕ) : Prop :=
  π.algoritmoReemplazoMmu = .lru →
    (orden.Pairwise fun p q => (descriptor p).timestamp < (descriptor q).timestamp) ∧
      ∀ p ∈ orden, (descriptor p).timestamp < contador

/-- The relation, except for where the page `x` is said to be. -/
structure SimSalvo (E : Entorno) (x : ℕ) (s : Estado) (n : Nucleo) : Prop where
  cache : s.cache = n.cache
  marcos : s.marcosList = tablaDeMarcos E.config.cantidadMarcos n.nombre n.marcos
  carpinchos : s.carpinchosList.map Carpincho.proceso = n.procesos
  nombradas : ∀ p, n.existe p ∨ p = x → Nombrada E.parametros (n.nombre p) (s.descriptor p)
  bits : ∀ p, n.existe p → Bits E.parametros (n.uso p) (n.modificada p) (s.descriptor p)
  ubicadas : ∀ p, n.existe p → p ≠ x → Ubicada n.marcos p (s.descriptor p)
  proximoPtr : s.proximoPtr = n.proximoPtr
  mensajes : s.mensajes = n.mensajes
  puntero : s.algoritmStackPointer = n.puntero
  ramas : s.ramas = []
  estampas : Estampas E.parametros s.descriptor s.contadorTimestamp n.orden
  tlb : TlbEstado E s

/-- The state of the module represents the state of the machine. -/
structure Sim (E : Entorno) (s : Estado) (n : Nucleo) : Prop where
  cache : s.cache = n.cache
  marcos : s.marcosList = tablaDeMarcos E.config.cantidadMarcos n.nombre n.marcos
  carpinchos : s.carpinchosList.map Carpincho.proceso = n.procesos
  nombradas : ∀ p, n.existe p → Nombrada E.parametros (n.nombre p) (s.descriptor p)
  bits : ∀ p, n.existe p → Bits E.parametros (n.uso p) (n.modificada p) (s.descriptor p)
  ubicadas : ∀ p, n.existe p → Ubicada n.marcos p (s.descriptor p)
  proximoPtr : s.proximoPtr = n.proximoPtr
  mensajes : s.mensajes = n.mensajes
  puntero : s.algoritmStackPointer = n.puntero
  ramas : s.ramas = []
  estampas : Estampas E.parametros s.descriptor s.contadorTimestamp n.orden
  tlb : TlbEstado E s

variable {E : Entorno} {s s' : Estado} {n : Nucleo}

section Relacion

theorem Sim.salvo (h : Sim E s n) {x : ℕ}
    (hx : Nombrada E.parametros (n.nombre x) (s.descriptor x)) :
    SimSalvo E x s n :=
  { cache := h.cache, marcos := h.marcos, carpinchos := h.carpinchos,
    nombradas := fun p hp => hp.elim (h.nombradas p) fun heq => heq ▸ hx,
    bits := h.bits, ubicadas := fun p hp _ => h.ubicadas p hp, proximoPtr := h.proximoPtr,
    mensajes := h.mensajes, puntero := h.puntero, ramas := h.ramas, estampas := h.estampas,
    tlb := h.tlb }

theorem map_proceso_of_soloTlb (h : SoloTlb s s') :
    s'.carpinchosList.map Carpincho.proceso = s.carpinchosList.map Carpincho.proceso := by
  have := congrArg (List.map Carpincho.proceso) h.carpinchos
  simp only [List.map_map] at this
  exact this

theorem Estampas.of_soloTlb {orden : List ℕ}
    (h : Estampas E.parametros s.descriptor s.contadorTimestamp orden) (hs : SoloTlb s s') :
    Estampas E.parametros s'.descriptor s'.contadorTimestamp orden := by
  intro hlru
  obtain ⟨hsorted, hlt⟩ := h hlru
  rw [hs.descriptor]
  exact ⟨hsorted, fun p hp => lt_of_lt_of_le (hlt p hp) hs.contador⟩

theorem SimSalvo.of_soloTlb {x : ℕ} (h : SimSalvo E x s n) (hs : SoloTlb s s')
    (ht : TlbEstado E s') : SimSalvo E x s' n where
  cache := hs.cache.trans h.cache
  marcos := hs.marcosList.trans h.marcos
  carpinchos := (map_proceso_of_soloTlb hs).trans h.carpinchos
  nombradas := fun p hp => hs.descriptor ▸ h.nombradas p hp
  bits := fun p hp => hs.descriptor ▸ h.bits p hp
  ubicadas := fun p hp hpx => hs.descriptor ▸ h.ubicadas p hp hpx
  proximoPtr := hs.proximoPtr.trans h.proximoPtr
  mensajes := hs.mensajes.trans h.mensajes
  puntero := hs.puntero.trans h.puntero
  ramas := hs.ramas.trans h.ramas
  estampas := h.estampas.of_soloTlb hs
  tlb := ht

theorem Sim.of_soloTlb (h : Sim E s n) (hs : SoloTlb s s') (ht : TlbEstado E s') :
    Sim E s' n where
  cache := hs.cache.trans h.cache
  marcos := hs.marcosList.trans h.marcos
  carpinchos := (map_proceso_of_soloTlb hs).trans h.carpinchos
  nombradas := fun p hp => hs.descriptor ▸ h.nombradas p hp
  bits := fun p hp => hs.descriptor ▸ h.bits p hp
  ubicadas := fun p hp => hs.descriptor ▸ h.ubicadas p hp
  proximoPtr := hs.proximoPtr.trans h.proximoPtr
  mensajes := hs.mensajes.trans h.mensajes
  puntero := hs.puntero.trans h.puntero
  ramas := hs.ramas.trans h.ramas
  estampas := h.estampas.of_soloTlb hs
  tlb := ht

end Relacion

section Marcos

variable {N : ℕ} {nombre : ℕ → ℤ × ℤ} {marcos : ℕ → Option ℕ}

@[simp] theorem marcoReal_marco (k : ℕ) (o : Option ℕ) : (marcoReal nombre k o).marco = k := by
  cases o <;> rfl

@[simp] theorem marcoReal_isFree (k : ℕ) (o : Option ℕ) :
    (marcoReal nombre k o).isFree = o.isNone := by
  cases o <;> rfl

theorem mem_tabla {m : Marco} : m ∈ tablaDeMarcos N nombre marcos ↔
    ∃ k, k < N ∧ marcoReal nombre k (marcos k) = m := by
  simp [tablaDeMarcos]

theorem find_tabla {q : Marco → Bool} {k : ℕ} (hk : k < N)
    (hq : q (marcoReal nombre k (marcos k)) = true)
    (huniq : ∀ j, j < N → q (marcoReal nombre j (marcos j)) = true → j = k) :
    (tablaDeMarcos N nombre marcos).find? q = some (marcoReal nombre k (marcos k)) := by
  cases hf : (tablaDeMarcos N nombre marcos).find? q with
  | none => exact absurd hq (by simpa using List.find?_eq_none.1 hf _ (mem_tabla.2 ⟨k, hk, rfl⟩))
  | some m =>
    obtain ⟨j, hj, rfl⟩ := mem_tabla.1 (List.mem_of_find?_eq_some hf)
    rw [huniq j hj (List.find?_some hf)]

theorem getMarcoByMarcoNumber_tabla (h : s.marcosList = tablaDeMarcos N nombre marcos) {k : ℕ}
    (hk : k < N) : getMarcoByMarcoNumber k s = some (marcoReal nombre k (marcos k)) := by
  rw [getMarcoByMarcoNumber, h]
  exact find_tabla hk (by simp) fun j _ hj => by simpa using hj

theorem listGet_tabla {k : ℕ} (hk : k < N) :
    listGet (tablaDeMarcos N nombre marcos) k = some (marcoReal nombre k (marcos k)) := by
  simp [listGet, tablaDeMarcos, hk]

theorem setMarco_eq {numero : ℤ} {f : Marco → Marco} {l : List Marco}
    (h : (s.setMarco numero f).marcosList = l) :
    s.setMarco numero f = { s with marcosList := l } := by
  rw [← h]
  rfl

theorem setMarco_ocupado (h : s.marcosList = tablaDeMarcos N nombre marcos) {k p : ℕ}
    {pid pagina : ℤ} (hp : nombre p = (pid, pagina)) :
    (s.setMarco k (Marco.ocupado pid pagina)).marcosList =
      tablaDeMarcos N nombre (Function.update marcos k (some p)) := by
  simp only [setMarco, h, tablaDeMarcos, List.map_map]
  refine List.map_congr_left fun j _ => ?_
  simp only [Function.comp_apply, marcoReal_marco]
  by_cases hj : j = k
  · subst hj
    rw [if_pos rfl, Function.update_self, marcoReal, hp, Marco.ocupado, marcoReal_marco]
  · simp [hj]

theorem setMarco_vacio (h : s.marcosList = tablaDeMarcos N nombre marcos) {k : ℕ} :
    (s.setMarco k Marco.vacio).marcosList =
      tablaDeMarcos N nombre (Function.update marcos k none) := by
  simp only [setMarco, h, tablaDeMarcos, List.map_map]
  refine List.map_congr_left fun j _ => ?_
  simp only [Function.comp_apply, marcoReal_marco]
  by_cases hj : j = k
  · subst hj
    rw [if_pos rfl, Function.update_self, marcoReal, Marco.vacio, marcoReal_marco]
  · simp [hj]

end Marcos

section Consultas

variable {p : ℕ}

theorem Sim.getCarpincho_proceso (h : Sim E s n) (pid : ℤ) :
    (getCarpincho pid s).map Carpincho.proceso = n.proceso pid := by
  rw [getCarpincho, Nucleo.proceso, ← h.carpinchos, List.find?_map]
  rfl

theorem Sim.getCarpincho_isSome (h : Sim E s n) (hb : n.Bien E.parametros) (hp : n.existe p) :
    (getCarpincho (s.descriptor p).carpinchoPid s).isSome := by
  obtain ⟨c, hc, -⟩ := hb.tablas.existe_proceso hp
  rw [← (h.nombradas p hp).pid, ← h.getCarpincho_proceso] at hc
  rw [← Option.isSome_map (f := Carpincho.proceso), hc]
  rfl

/-- A frame holds the page by name exactly when it holds it. -/
theorem Sim.esMarcoDe_iff (h : Sim E s n) (hb : n.Bien E.parametros) (hp : n.existe p) (k : ℕ) :
    esMarcoDe p s (marcoReal n.nombre k (n.marcos k)) = true ↔ n.marcos k = some p := by
  have hd := h.nombradas p hp
  simp only [esMarcoDe, hd.pid, hd.pagina, decide_eq_true_eq]
  cases hk : n.marcos k with
  | none =>
    have hne := hb.tablas.nombre_ne hp
    simp [marcoReal, Ne.symm hne]
  | some q =>
    simp only [marcoReal, Option.some.injEq]
    constructor
    · rintro ⟨h₁, h₂⟩
      exact hb.tablas.nombre_inj (hb.marcos.existe k q hk) hp (Prod.ext h₁ h₂)
    · rintro rfl
      exact ⟨rfl, rfl⟩

theorem Sim.paginaIsInCache_iff (h : Sim E s n) (hb : n.Bien E.parametros) (hp : n.existe p) :
    paginaIsInCache p s = true ↔ ∃ k, n.marcos k = some p := by
  rw [paginaIsInCache, h.marcos, List.any_eq_true]
  constructor
  · rintro ⟨m, hm, hq⟩
    obtain ⟨k, -, rfl⟩ := mem_tabla.1 hm
    exact ⟨k, (h.esMarcoDe_iff hb hp k).1 hq⟩
  · rintro ⟨k, hk⟩
    exact ⟨_, mem_tabla.2 ⟨k, hb.marcos.lt k p hk, rfl⟩, (h.esMarcoDe_iff hb hp k).2 hk⟩

theorem Sim.obtenerMarcoDeCache_eq (h : Sim E s n) (hb : n.Bien E.parametros) {k : ℕ}
    (hk : n.marcos k = some p) : obtenerMarcoDeCache p s = k := by
  have hp := hb.marcos.existe k p hk
  have hfind := find_tabla (N := E.config.cantidadMarcos) (hb.marcos.lt k p hk)
    ((h.esMarcoDe_iff hb hp k).2 hk) fun j _ hj =>
      hb.marcos.inj j k p ((h.esMarcoDe_iff hb hp j).1 hj) hk
  rw [obtenerMarcoDeCache, h.marcos, hfind]
  simp

theorem Sim.tlb_marco (h : Sim E s n) (hb : n.Bien E.parametros) (hp : n.existe p) {t : Tlb}
    (ht : t ∈ s.tlbList) (hpid : t.pid = (s.descriptor p).carpinchoPid)
    (hpag : t.pagina = (s.descriptor p).pagina) : ∃ k : ℕ, t.marco = k ∧ n.marcos k = some p := by
  have hne : t.pid ≠ 0 := by
    rw [hpid, (h.nombradas p hp).pid]
    exact hb.tablas.nombre_ne hp
  obtain ⟨m, hm, hmarco, hmpid, hmpag⟩ := h.tlb.bien.marco t ht hne
  rw [h.marcos] at hm
  obtain ⟨k, -, rfl⟩ := mem_tabla.1 hm
  refine ⟨k, by rw [← hmarco, marcoReal_marco], (h.esMarcoDe_iff hb hp k).1 ?_⟩
  simp [esMarcoDe, hmpid, hmpag, hpid, hpag]

theorem Sim.marco_of_tlb (h : Sim E s n) (hb : n.Bien E.parametros) (hp : n.existe p)
    (htlb : paginaIsInTlb p s = true) : ∃ k, n.marcos k = some p := by
  obtain ⟨t, ht, hpid, hpag⟩ := paginaIsInTlb_iff.1 htlb
  obtain ⟨k, -, hk⟩ := h.tlb_marco hb hp ht hpid hpag
  exact ⟨k, hk⟩

theorem Sim.paginasLegibles (h : Sim E s n) {ps : List ℕ} (hps : ∀ q ∈ ps, n.existe q) :
    paginasLegibles ps s = .ok () := by
  rw [Memoria.paginasLegibles, if_neg]
  simp only [List.any_eq_true, not_exists, not_and, Bool.not_eq_true]
  exact fun q hq => (h.nombradas q (hps q hq)).viva

theorem Sim.mem_carpinchos (h : Sim E s n) {c : Carpincho} (hc : c ∈ s.carpinchosList) :
    c.proceso ∈ n.procesos := by
  rw [← h.carpinchos]
  exact List.mem_map_of_mem hc

end Consultas

end Carpinchos.Memoria
