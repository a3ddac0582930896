import Carpinchos.Memoria.SimulacionPaso
import Carpinchos.Memoria.SwampFiel

/-!
# The tables of the paging module stay coherent

What the frame table, the page descriptors and the TLB say about each other, in the
terms of the module alone, after every run of calls. The proof reads it off the
machine without TLB that the module represents.
-/

namespace Carpinchos.Memoria

open Outcome Estado Runs

variable {E : Entorno} {s : Estado} {n : Nucleo}

section Definiciones

def existePagina (p : ℕ) (s : Estado) : Prop := ∃ c ∈ s.carpinchosList, p ∈ c.paginas

/-- The bit of presence says whether one frame holds the page, and which. -/
structure PresenciaBien (s : Estado) (p : ℕ) : Prop where
  presencia : (s.descriptor p).bitPresencia = true ↔ ∃ m, s.marcosList.filter (esMarcoDe p s) = [m]
  marco : ∀ m ∈ s.marcosList, esMarcoDe p s m = true →
    m.isFree = false ∧ m.marco = (s.descriptor p).marco

/-- Frames are numbered by position, those in use hold distinct existing pages, and the
others hold none. -/
structure MarcosCoherentes (s : Estado) : Prop where
  numeros : s.marcosList.map Marco.marco = (List.range s.marcosList.length).map Nat.cast
  ocupados : ∀ m ∈ s.marcosList, m.isFree = false → ∃ p, existePagina p s ∧ esMarcoDe p s m = true
  libres : ∀ m ∈ s.marcosList, m.isFree = true → m.pid = 0 ∧ m.pagina = 0
  distintos : s.marcosList.Pairwise fun m m' =>
    m.isFree = false → m'.isFree = false → (m.pid, m.pagina) ≠ (m'.pid, m'.pagina)

/-- Entries in use name the frame that holds their page, and repeat neither. -/
structure TlbCoherente (s : Estado) : Prop where
  marco : ∀ t ∈ s.tlbList, t.pid ≠ 0 →
    ∃ m ∈ s.marcosList, m.marco = t.marco ∧ m.isFree = false ∧ m.pid = t.pid ∧ m.pagina = t.pagina
  distintas : s.tlbList.Pairwise fun t t' =>
    t.pid ≠ 0 → t'.pid ≠ 0 → (t.pid, t.pagina) ≠ (t'.pid, t'.pagina) ∧ t.marco ≠ t'.marco

/-- The tables agree, and no branch for tables that disagree has been taken. -/
structure Coherente (s : Estado) : Prop where
  paginas : ∀ p, existePagina p s → PresenciaBien s p
  marcos : MarcosCoherentes s
  tlb : TlbCoherente s
  ramas : s.ramas = []

end Definiciones

section Representacion

theorem Sim.existe_iff (h : Sim E s n) {p : ℕ} : existePagina p s ↔ n.existe p := by
  unfold existePagina Nucleo.existe
  rw [← h.carpinchos]
  constructor
  · rintro ⟨c, hc, hp⟩
    exact ⟨c.proceso, List.mem_map_of_mem hc, hp⟩
  · rintro ⟨d, hd, hp⟩
    obtain ⟨c, hc, rfl⟩ := List.mem_map.1 hd
    exact ⟨c, hc, hp⟩

theorem Sim.filter_marcos (h : Sim E s n) (hb : n.Bien E.parametros) {p : ℕ} (hp : n.existe p) :
    s.marcosList.filter (esMarcoDe p s) =
      ((List.range E.config.cantidadMarcos).filter fun k => decide (n.marcos k = some p)).map
        fun k => marcoReal n.nombre k (n.marcos k) := by
  rw [h.marcos, tablaDeMarcos, List.filter_map]
  congr 1
  refine List.filter_congr fun k _ => ?_
  rw [Bool.eq_iff_iff, Function.comp_apply, h.esMarcoDe_iff hb hp, decide_eq_true_eq]

theorem filter_range_eq {N k : ℕ} {q : ℕ → Bool} (hk : k < N)
    (hq : ∀ j, j < N → (q j = true ↔ j = k)) : (List.range N).filter q = [k] := by
  have hcongr : (List.range N).filter q = (List.range N).filter (· == k) := by
    refine List.filter_congr fun j hj => ?_
    rw [Bool.eq_iff_iff, hq j (List.mem_range.1 hj), beq_iff_eq]
  rw [hcongr, List.filter_beq, List.count_eq_one_of_mem List.nodup_range (List.mem_range.2 hk)]
  rfl

theorem Sim.presenciaBien (h : Sim E s n) (hb : n.Bien E.parametros) {p : ℕ}
    (hp : n.existe p) : PresenciaBien s p := by
  have hu := h.ubicadas p hp
  constructor
  · rw [hu.presencia, h.filter_marcos hb hp]
    constructor
    · rintro ⟨k, hk⟩
      have hlt : k < E.config.cantidadMarcos := hb.marcos.lt k p hk
      rw [filter_range_eq hlt fun j _ => ?_]
      · exact ⟨_, rfl⟩
      · rw [decide_eq_true_eq]
        exact ⟨fun hj => hb.marcos.inj j k p hj hk, fun hj => hj ▸ hk⟩
    · rintro ⟨m, hm⟩
      have hmem := hm ▸ List.mem_singleton_self m
      obtain ⟨k, hk, -⟩ := List.mem_map.1 hmem
      exact ⟨k, by simpa using (List.mem_filter.1 hk).2⟩
  · intro m hm hes
    rw [h.marcos] at hm
    obtain ⟨k, -, rfl⟩ := mem_tabla.1 hm
    have hk := (h.esMarcoDe_iff hb hp k).1 hes
    rw [marcoReal_marco, marcoReal_isFree, hk, hu.marco k hk]
    exact ⟨rfl, rfl⟩

theorem ocupado_of_isFree {k : ℕ} (hk : (marcoReal n.nombre k (n.marcos k)).isFree = false) :
    ∃ p, n.marcos k = some p := by
  rw [marcoReal_isFree] at hk
  exact Option.isSome_iff_exists.1 (by simpa using hk)

theorem marco_unico (hb : n.Bien E.parametros) {i j : ℕ}
    (hi : (marcoReal n.nombre i (n.marcos i)).isFree = false)
    (hj : (marcoReal n.nombre j (n.marcos j)).isFree = false)
    (heq : ((marcoReal n.nombre i (n.marcos i)).pid, (marcoReal n.nombre i (n.marcos i)).pagina) =
      ((marcoReal n.nombre j (n.marcos j)).pid, (marcoReal n.nombre j (n.marcos j)).pagina)) :
    i = j := by
  obtain ⟨p, hp⟩ := ocupado_of_isFree hi
  obtain ⟨q, hq⟩ := ocupado_of_isFree hj
  rw [hp, hq] at heq
  obtain rfl := hb.tablas.nombre_inj (hb.marcos.existe i p hp) (hb.marcos.existe j q hq) heq
  exact hb.marcos.inj i j p hp hq

theorem Sim.marcosCoherentes (h : Sim E s n) (hb : n.Bien E.parametros) :
    MarcosCoherentes s := by
  refine ⟨?_, ?_, ?_, ?_⟩
  · rw [h.marcos, tablaDeMarcos, List.map_map, List.length_map, List.length_range]
    exact List.map_congr_left fun k _ => marcoReal_marco k _
  · intro m hm hfree
    rw [h.marcos] at hm
    obtain ⟨k, -, rfl⟩ := mem_tabla.1 hm
    obtain ⟨p, hk⟩ := ocupado_of_isFree hfree
    have hp := hb.marcos.existe k p hk
    exact ⟨p, h.existe_iff.2 hp, (h.esMarcoDe_iff hb hp k).2 hk⟩
  · intro m hm hfree
    rw [h.marcos] at hm
    obtain ⟨k, -, rfl⟩ := mem_tabla.1 hm
    rw [marcoReal_isFree, Option.isNone_iff_eq_none] at hfree
    rw [hfree]
    exact ⟨rfl, rfl⟩
  · rw [h.marcos, tablaDeMarcos, List.pairwise_map]
    exact List.pairwise_lt_range.imp fun {i j} hij hi hj heq =>
      absurd (marco_unico hb hi hj heq) (ne_of_lt hij)

theorem Sim.tlbCoherente (h : Sim E s n) (hb : n.Bien E.parametros) : TlbCoherente s := by
  have hbien := h.tlb.bien
  have hmarco : ∀ t ∈ s.tlbList, t.pid ≠ 0 → ∃ m ∈ s.marcosList,
      m.marco = t.marco ∧ m.isFree = false ∧ m.pid = t.pid ∧ m.pagina = t.pagina := by
    intro t ht h0
    obtain ⟨m, hm, hmarco, hpid, hpag⟩ := hbien.marco t ht h0
    refine ⟨m, hm, hmarco, ?_, hpid, hpag⟩
    cases hfree : m.isFree with
    | false => rfl
    | true => exact absurd (((h.marcosCoherentes hb).libres m hm hfree).1) (hpid ▸ h0)
  refine ⟨hmarco, ?_⟩
  have hentradas : s.tlbList.Pairwise fun t t' => t.entrada ≠ t'.entrada :=
    List.pairwise_map.1 hbien.entradas
  refine hentradas.imp_of_mem fun {t t'} ht ht' hne h0 h0' => ⟨fun heq => ?_, fun heq => ?_⟩
  · obtain ⟨m, hm, hmt, hfree, hmpid, hmpag⟩ := hmarco t ht h0
    obtain ⟨m', hm', hmt', hfree', hmpid', hmpag'⟩ := hmarco t' ht' h0'
    rw [h.marcos] at hm hm'
    obtain ⟨j, -, rfl⟩ := mem_tabla.1 hm
    obtain ⟨j', -, rfl⟩ := mem_tabla.1 hm'
    obtain rfl := marco_unico hb hfree hfree' (by rw [hmpid, hmpag, hmpid', hmpag', heq])
    exact hne (hbien.unico t ht t' ht' h0 h0' (hmt.symm.trans hmt'))
  · exact hne (hbien.unico t ht t' ht' h0 h0' heq)

theorem Representa.coherente (h : Representa E s n) : Coherente s where
  paginas := fun _ hp => h.sim.presenciaBien h.bien (h.sim.existe_iff.1 hp)
  marcos := h.sim.marcosCoherentes h.bien
  tlb := h.sim.tlbCoherente h.bien
  ramas := h.sim.ramas

end Representacion

section Corrida

/-- With SWAmP serving every page, the machine without TLB never refuses a transfer. -/
theorem no_rechazo (hswamp : ∀ historia pid pagina, (E.leerSwamp historia pid pagina).isSome)
    {e : Falla} (he : Nucleo.Detiene E.parametros e) : ¬ EsRechazo e := by
  rintro rfl
  rcases he with he | ⟨-, historia, pid, pagina, hnone⟩ | he | he
  · cases he
  · have hsome : (E.parametros.leerSwamp historia pid pagina).isSome := hswamp historia pid pagina
    rw [hnone] at hsome
    cases hsome
  · cases he
  · cases he

/-- The runs of the machine without TLB keep its invariant. -/
theorem Nucleo.corrida_spec {π : Parametros} {ops : List Operacion}
    (hops : ∀ op ∈ ops, Nucleo.Admisible op) :
    Spec (run (Nucleo.paso π) ops Nucleo.inicial)
      (fun r => r.2.Bien π ∧ r.2.OrdenBien π) (Nucleo.Detiene π) := by
  have hpaso : ∀ op n, Nucleo.Admisible op → n.Bien π ∧ n.OrdenBien π →
      Spec (Nucleo.paso π op n) (fun r => r.2.Bien π ∧ r.2.OrdenBien π) (Nucleo.Detiene π) :=
    fun _ _ hop h => Nucleo.paso_spec h.1 h.2 hop
  exact run_invariant hpaso ops _ hops ⟨Nucleo.inicial_bien, Nucleo.inicial_ordenBien⟩

/-- After every run the tables are coherent. A run can only stop without candidates for
a victim, at a call on a page that does not exist, at an access outside the memory, or
at the overflow of a counter: neither the recovery branches of the TLB nor the end of
`get_proxima_a_swampear_by_m_clock` are ever reached. -/
theorem corrida_coherente (htlb : 0 < E.config.cantidaEntradasTlb)
    (hswamp : ∀ historia pid pagina, (E.leerSwamp historia pid pagina).isSome)
    (basura : ℕ → Pagina) (ops : List Operacion) (hops : ∀ op ∈ ops, Nucleo.Admisible op) :
    Spec (run (paso E) ops (inicializarMemoria E.config basura)) (fun r => Coherente r.2)
      (fun e => e = .candidatosVacios ∨ e = .operandoInexistente ∨ e = .fueraDeCache ∨
        e = .desbordamiento) := by
  refine ((corrida_sim htlb basura hops).spec (Nucleo.corrida_spec hops)
    fun e he => no_rechazo hswamp he).mono ?_ ?_
  · rintro ⟨resultados, s⟩ ⟨⟨resultados', n⟩, ⟨-, h⟩, -⟩
    exact h.coherente
  · rintro e (he | he)
    · rcases he with he | ⟨he, hno⟩ | he | he
      · exact Or.inl he
      · exact absurd he (no_rechazo hswamp (Or.inr (Or.inl ⟨he, hno⟩)))
      · exact Or.inr (Or.inl he)
      · exact Or.inr (Or.inr (Or.inl he))
    · exact Or.inr (Or.inr (Or.inr he))

def tresPaginas : List Operacion :=
  [.createCarpincho 1, .createPagina 1, .createPagina 1, .createPagina 1, .leerEnPagina 1 1 2 0]

theorem corrida_coherente_tresPaginas :
    ∃ r, run (paso (entornoFiel (configChica .lru .fifo))) tresPaginas
        (inicializarMemoria (configChica .lru .fifo) fun _ => paginaNueva 0 0) = .ok r ∧
      Coherente r.2 := by
  have hspec := corrida_coherente (E := entornoFiel (configChica .lru .fifo)) (by decide)
    (fun _ _ _ => rfl) (fun _ => paginaNueva 0 0) tresPaginas
    (by simp [tresPaginas, Nucleo.Admisible])
  have hok : (run (paso (entornoFiel (configChica .lru .fifo))) tresPaginas
      (inicializarMemoria (configChica .lru .fifo) fun _ => paginaNueva 0 0)).isOk = true := by
    decide +kernel
  obtain ⟨r, hr⟩ := exists_of_isOk hok
  exact ⟨r, hr, hspec.post_of_eq hr⟩

end Corrida

end Carpinchos.Memoria
