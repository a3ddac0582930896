import Carpinchos.Kernel.Listos

/-!
# The degree of multiprogramming

`puedeEntrarAlSistema` counts the places that are left. A carpincho takes one when it is
admitted and gives it back when it is freed after its end, so the places left and the
carpinchos in READY, on a CPU, in BLOCKED and in EXIT add up to the degree. A suspension never
comes to its post, the detector of deadlocks frees a carpincho without one, and a carpincho
that is given no CPU is in no queue; no other step loses or creates a place.
-/

namespace Carpinchos.Kernel

open Queues Runs

namespace Tablero

section Definiciones

variable (s : Tablero) (n : ℕ) (p : ℕ)

def enCpus : List ℕ :=
  ((List.range n).filter fun c => !(s.cpu c).libre).map fun c => (s.cpu c).pcbCarpincho

def enMano : List ℕ :=
  match s.corto with
  | .asignando p => [p]
  | _ => []

/-- The control blocks in READY, on a CPU, in BLOCKED and in EXIT. -/
def dentro : Finset ℕ :=
  (s.listos ++ s.enCpus n ++ s.bloqueados ++ s.salida).toFinset.filter fun p => (s.ficha p).isSome

def presentes : Finset ℕ :=
  (s.listos ++ s.enCpus n ++ s.bloqueados ++ s.salida ++ s.enMano).toFinset.filter
    fun p => (s.ficha p).isSome

def EnCola : Prop := p ∈ s.listos ∨ p ∈ s.bloqueados ∨ p ∈ s.salida

def Ocupa (c : ℕ) : Prop := (s.cpu c).libre = false ∧ (s.cpu c).pcbCarpincho = p

def Apartado : Prop := s.EnCola p ∨ ∃ c, s.Ocupa p c ∧ (s.cpu c).etapa.bloqueando

def Corre : Prop := (∃ c, s.Ocupa p c) ∨ s.corto = .asignando p

def Presente : Prop := s.EnCola p ∨ s.Corre p

end Definiciones

/-- The places are accounted for, and a carpincho that a CPU will let go of is in a queue. -/
structure Cupo (cfg : Config) (s : Tablero) : Prop where
  cuenta : s.lugares + (s.presentes cfg.gradoMultiprocesamiento).card = cfg.gradoMultiprogramacion
  nodup : s.nuevos.Nodup
  vivos : ∀ p ∈ s.nuevos, (s.ficha p).isSome
  ausentes : ∀ p ∈ s.nuevos, ¬ s.Presente p
  acotados : ∀ p, s.Presente p ∨ (s.ficha p).isSome → p < s.proxima
  cpus : ∀ c, (s.cpu c).libre = false → c < cfg.gradoMultiprocesamiento
  ocupadas : ∀ c, (s.cpu c).etapa ≠ .esperando → (s.cpu c).libre = false
  apartados : ∀ p f, s.Corre p → s.ficha p = some f → f.status ≠ .exec → s.Apartado p
  sinAsignar : cfg.algoritmoPlanificacion = .hrrn → ∀ p, s.corto ≠ .asignando p

section Cupo

variable {cfg : Config} {s s' : Tablero} {p c n : ℕ} {f f' : Ficha} {etapa : Etapa}

theorem mem_enCpus : p ∈ s.enCpus n ↔ ∃ c < n, s.Ocupa p c := by
  simp only [enCpus, List.mem_map, List.mem_filter, List.mem_range, Bool.not_eq_true', Ocupa,
    and_assoc]

theorem mem_enMano : p ∈ s.enMano ↔ s.corto = .asignando p := by
  unfold enMano
  cases s.corto with
  | asignando q => simp [eq_comm]
  | _ => simp

theorem mem_presentes (hcpus : ∀ c, (s.cpu c).libre = false → c < n) :
    p ∈ s.presentes n ↔ (s.ficha p).isSome ∧ s.Presente p := by
  have hcpu : (∃ c < n, s.Ocupa p c) ↔ ∃ c, s.Ocupa p c := by
    constructor
    · rintro ⟨c, -, hc⟩
      exact ⟨c, hc⟩
    · rintro ⟨c, hc⟩
      exact ⟨c, hcpus c hc.1, hc⟩
  simp only [presentes, Finset.mem_filter, List.mem_toFinset, List.mem_append, mem_enCpus,
    mem_enMano, hcpu, Presente, EnCola, Corre]
  tauto

theorem presentes_eq_dentro (h : ∀ p, s.corto ≠ .asignando p) : s.presentes n = s.dentro n := by
  have hmano : s.enMano = [] := by
    unfold enMano
    split
    · next p hp => exact absurd hp (h p)
    · rfl
  rw [presentes, hmano, List.append_nil, dentro]

theorem Apartado.presente (h : s.Apartado p) : s.Presente p :=
  h.imp id fun ⟨c, hc, _⟩ => Or.inl ⟨c, hc⟩

theorem presentes_congr (hcpus : ∀ c, (s.cpu c).libre = false → c < n)
    (hcpus' : ∀ c, (s'.cpu c).libre = false → c < n)
    (h : ∀ p, (s'.ficha p).isSome ∧ s'.Presente p ↔ (s.ficha p).isSome ∧ s.Presente p) :
    s'.presentes n = s.presentes n := by
  ext p
  rw [mem_presentes hcpus', mem_presentes hcpus, h]

/-- Nobody takes a place or gives one back. -/
theorem Cupo.of_mismos (h : s.Cupo cfg) (hficha : ∀ p, (s'.ficha p).isSome = (s.ficha p).isSome)
    (hpresente : ∀ p, s'.Presente p ↔ s.Presente p) (hnuevos : s'.nuevos = s.nuevos)
    (hlugares : s'.lugares = s.lugares) (hproxima : s.proxima ≤ s'.proxima)
    (hcpus : ∀ c, (s'.cpu c).libre = false → c < cfg.gradoMultiprocesamiento)
    (hocupadas : ∀ c, (s'.cpu c).etapa ≠ .esperando → (s'.cpu c).libre = false)
    (hapartados : ∀ p f, s'.Corre p → s'.ficha p = some f → f.status ≠ .exec → s'.Apartado p)
    (hsin : cfg.algoritmoPlanificacion = .hrrn → ∀ p, s'.corto ≠ .asignando p) :
    s'.Cupo cfg where
  cuenta := by
    rw [presentes_congr h.cpus hcpus fun p => by rw [hficha, hpresente], hlugares, h.cuenta]
  nodup := hnuevos ▸ h.nodup
  vivos p hp := by
    rw [hnuevos] at hp
    rw [hficha]
    exact h.vivos p hp
  ausentes p hp := by
    rw [hnuevos] at hp
    rw [hpresente]
    exact h.ausentes p hp
  acotados p hp := by
    rw [hpresente, hficha] at hp
    exact (h.acotados p hp).trans_le hproxima
  cpus := hcpus
  ocupadas := hocupadas
  apartados := hapartados
  sinAsignar := hsin

theorem Cupo.conCantidad (h : s.Cupo cfg) (m : ℕ) : Cupo cfg { s with cantidad := m } :=
  ⟨h.cuenta, h.nodup, h.vivos, h.ausentes, h.acotados, h.cpus, h.ocupadas, h.apartados,
    h.sinAsignar⟩

theorem ocupa_conEtapa (c' : ℕ) : (s.conEtapa c etapa).Ocupa p c' ↔ s.Ocupa p c' := by
  unfold Ocupa conEtapa conCpu
  by_cases hc : c' = c
  · subst hc
    simp
  · simp [hc]

/-- The thread of a CPU moves; if it was about to put its carpincho in a queue, it has. -/
theorem Cupo.conEtapa (h : s.Cupo cfg) (hc : (s.cpu c).etapa ≠ .esperando)
    (hb : (s.cpu c).etapa.bloqueando = true → s.EnCola (s.cpu c).pcbCarpincho) :
    (s.conEtapa c etapa).Cupo cfg := by
  have hcorre : ∀ p, (s.conEtapa c etapa).Corre p ↔ s.Corre p := by
    intro p
    simp only [Corre, ocupa_conEtapa]
    rfl
  have hlibre : ∀ c', ((s.conEtapa c etapa).cpu c').libre = (s.cpu c').libre := by
    intro c'
    by_cases hc' : c' = c
    · subst hc'
      simp [Tablero.conEtapa, conCpu]
    · simp [Tablero.conEtapa, conCpu, hc']
  refine h.of_mismos (fun _ => rfl) (fun p => or_congr Iff.rfl (hcorre p)) rfl rfl le_rfl
    (fun c' hc' => h.cpus c' (by rwa [hlibre] at hc')) (fun c' hc' => ?_)
    (fun p f hp hf hexec => ?_) h.sinAsignar
  · rw [hlibre]
    by_cases hcc : c' = c
    · exact hcc ▸ h.ocupadas c hc
    · refine h.ocupadas c' ?_
      simpa [Tablero.conEtapa, conCpu, hcc] using hc'
  · rcases h.apartados p f ((hcorre p).1 hp) hf hexec with hcola | ⟨c', hocupa, hbloqueando⟩
    · exact Or.inl hcola
    · by_cases hcc : c' = c
      · subst hcc
        exact Or.inl (hocupa.2 ▸ hb hbloqueando)
      · refine Or.inr ⟨c', (ocupa_conEtapa c').2 hocupa, ?_⟩
        simpa [Tablero.conEtapa, conCpu, hcc] using hbloqueando

theorem isSome_conFicha (hf : (s.ficha p).isSome) (q : ℕ) :
    ((s.conFicha p f').ficha q).isSome = (s.ficha q).isSome := by
  by_cases hq : q = p
  · subst hq
    simp [Tablero.conFicha, hf]
  · simp [Tablero.conFicha, hq]

theorem Cupo.conFicha (h : s.Cupo cfg) (f' : Ficha) (hf : (s.ficha p).isSome)
    (hf' : f'.status ≠ .exec → s.Corre p → s.Apartado p) : (s.conFicha p f').Cupo cfg := by
  refine h.of_mismos (isSome_conFicha hf) (fun _ => Iff.rfl) rfl rfl le_rfl h.cpus h.ocupadas
    (fun q g hq hg hexec => ?_) h.sinAsignar
  by_cases hqp : q = p
  · subst hqp
    have hg' : some f' = some g := by
      rw [← hg]
      exact (Function.update_self q (some f') s.ficha).symm
    cases hg'
    exact hf' hexec hq
  · refine h.apartados q g hq ?_ hexec
    rw [← hg]
    exact (Function.update_of_ne hqp _ _).symm

theorem Cupo.conProxima (h : s.Cupo cfg) {m : ℕ} (hm : s.proxima ≤ m) :
    Cupo cfg { s with proxima := m } :=
  ⟨h.cuenta, h.nodup, h.vivos, h.ausentes, fun p hp => (h.acotados p hp).trans_le hm, h.cpus,
    h.ocupadas, h.apartados, h.sinAsignar⟩

theorem Cupo.conColas (h : s.Cupo cfg) (l b e : List ℕ)
    (hmas : ∀ q, s.EnCola q → q ∈ l ∨ q ∈ b ∨ q ∈ e)
    (hnuevo : ∀ q, q ∈ l ∨ q ∈ b ∨ q ∈ e → s.Presente q) :
    Cupo cfg { s with listos := l, bloqueados := b, salida := e } := by
  refine h.of_mismos (fun _ => rfl) (fun p => ⟨?_, ?_⟩) rfl rfl le_rfl h.cpus h.ocupadas
    (fun p f hp hf hexec => ?_) h.sinAsignar
  · rintro (hcola | hcorre)
    · exact hnuevo p hcola
    · exact Or.inr hcorre
  · exact Or.imp (hmas p) id
  · exact (h.apartados p f hp hf hexec).imp (hmas p) id

theorem Despierta.cupo (hd : s.Despierta s') (h : s.Cupo cfg) : s'.Cupo cfg := by
  cases hd with
  | nadie => exact h
  | bloqueado j p f hj hf =>
    have hperm := cons_eraseIdx_perm hj
    have hcolas := (h.conColas (s.listos ++ [p]) (s.bloqueados.eraseIdx j) s.salida
      (fun q hq => ?_) fun q hq => ?_).conCantidad (s.cantidad + 1)
    · apply hcolas.conFicha _
      · exact Option.isSome_of_eq_some hf
      · intro _ _
        exact Or.inl (Or.inl (by simp))
    · rcases hq with hq | hq | hq
      · exact Or.inl (List.mem_append_left _ hq)
      · rcases List.mem_cons.1 (hperm.mem_iff.2 hq) with rfl | hq
        · exact Or.inl (by simp)
        · exact Or.inr (Or.inl hq)
      · exact Or.inr (Or.inr hq)
    · rcases hq with hq | hq | hq
      · rcases List.mem_append.1 hq with hq | hq
        · exact Or.inl (Or.inl hq)
        · cases List.mem_singleton.1 hq
          exact Or.inl (Or.inr (Or.inl (List.mem_of_getElem? hj)))
      · exact Or.inl (Or.inr (Or.inl (List.mem_of_mem_eraseIdx hq)))
      · exact Or.inl (Or.inr (Or.inr hq))
  | suspendido i hi =>
    exact ⟨h.cuenta, h.nodup, h.vivos, h.ausentes, h.acotados, h.cpus, h.ocupadas, h.apartados,
      h.sinAsignar⟩

end Cupo

section Movimientos

variable {cfg : Config} {s : Tablero} {p c i n : ℕ} {f : Ficha} {ps : List ℕ}

theorem Cupo.ocupa (h : s.Cupo cfg) (hc : (s.cpu c).etapa ≠ .esperando) :
    s.Ocupa (s.cpu c).pcbCarpincho c := ⟨h.ocupadas c hc, rfl⟩

theorem Cupo.llegada (h : s.Cupo cfg) (f : Ficha) :
    Cupo cfg ({ s with nuevos := s.nuevos ++ [s.proxima], proxima := s.proxima + 1 }.conFicha
      s.proxima f) := by
  have hausente : ¬ s.Presente s.proxima := fun hp => lt_irrefl _ (h.acotados _ (Or.inl hp))
  have hficha : ∀ q, q ≠ s.proxima → Function.update s.ficha s.proxima (some f) q = s.ficha q :=
    fun q hq => Function.update_of_ne hq _ _
  have hpresente : ∀ q, s.Presente q → q ≠ s.proxima := by
    rintro q hq rfl
    exact hausente hq
  constructor
  · refine Eq.trans ?_ h.cuenta
    refine congrArg (fun x : Finset ℕ => s.lugares + x.card) (presentes_congr h.cpus ?_ fun q => ?_)
    · exact h.cpus
    refine and_congr_left fun hq => ?_
    exact iff_of_eq (congrArg (fun g : Option Ficha => g.isSome = true) (hficha q (hpresente q hq)))
  · refine List.Nodup.append h.nodup (List.nodup_singleton _) fun q hq hq' => ?_
    cases List.mem_singleton.1 hq'
    exact lt_irrefl _ (h.acotados _ (Or.inr (h.vivos _ hq)))
  · intro q hq
    show (Function.update s.ficha s.proxima (some f) q).isSome = true
    by_cases heq : q = s.proxima
    · rw [heq, Function.update_self]
      rfl
    · rw [hficha q heq]
      rcases List.mem_append.1 hq with hq | hq
      · exact h.vivos q hq
      · exact absurd (List.mem_singleton.1 hq) heq
  · intro q hq
    rcases List.mem_append.1 hq with hq | hq
    · exact h.ausentes q hq
    · cases List.mem_singleton.1 hq
      exact hausente
  · intro q hq
    by_cases heq : q = s.proxima
    · exact heq ▸ Nat.lt_succ_self _
    · refine (h.acotados q ?_).trans (Nat.lt_succ_self _)
      refine hq.imp id fun hq => ?_
      rwa [← hficha q heq]
  · exact h.cpus
  · exact h.ocupadas
  · intro q g hq hg hexec
    refine h.apartados q g hq ?_ hexec
    rw [← hficha q (hpresente q (Or.inr hq))]
    exact hg
  · exact h.sinAsignar

theorem Cupo.admision (h : s.Cupo cfg) (hlugares : s.lugares = n + 1) (hnuevos : s.nuevos = p :: ps)
    (m : ℕ) : Cupo cfg { s with
      lugares := n, nuevos := ps, listos := s.listos ++ [p], cantidad := m } := by
  obtain ⟨hp, hps⟩ := List.nodup_cons.1 (hnuevos ▸ h.nodup)
  have hmem : p ∈ s.nuevos := hnuevos ▸ List.mem_cons_self
  have hausente := h.ausentes p hmem
  have hpresente : ∀ q, Presente { s with
      lugares := n, nuevos := ps, listos := s.listos ++ [p], cantidad := m } q ↔
        q = p ∨ s.Presente q := by
    intro q
    show (q ∈ s.listos ++ [p] ∨ q ∈ s.bloqueados ∨ q ∈ s.salida) ∨ s.Corre q ↔ _
    simp only [Presente, EnCola, List.mem_append, List.mem_singleton]
    tauto
  constructor
  · have hinsert : presentes { s with
        lugares := n, nuevos := ps, listos := s.listos ++ [p], cantidad := m }
          cfg.gradoMultiprocesamiento = insert p (s.presentes cfg.gradoMultiprocesamiento) := by
      ext q
      refine (mem_presentes ?_).trans ?_
      · exact h.cpus
      rw [Finset.mem_insert, mem_presentes h.cpus, hpresente]
      have hvivo := h.vivos p hmem
      constructor
      · rintro ⟨hq, hqp | hq'⟩
        · exact Or.inl hqp
        · exact Or.inr ⟨hq, hq'⟩
      · rintro (rfl | ⟨hq, hq'⟩)
        · exact ⟨hvivo, Or.inl rfl⟩
        · exact ⟨hq, Or.inr hq'⟩
    have hnuevo : p ∉ s.presentes cfg.gradoMultiprocesamiento := fun hp' =>
      hausente ((mem_presentes h.cpus).1 hp').2
    have hcuenta := h.cuenta
    rw [hinsert, Finset.card_insert_of_notMem hnuevo]
    dsimp only
    omega
  · exact hps
  · exact fun q hq => h.vivos q (hnuevos ▸ List.mem_cons_of_mem p hq)
  · intro q hq
    rw [hpresente]
    rintro (rfl | hq')
    · exact hp hq
    · exact h.ausentes q (hnuevos ▸ List.mem_cons_of_mem p hq) hq'
  · intro q hq
    rw [hpresente] at hq
    rcases hq with (rfl | hq) | hq
    · exact h.acotados q (Or.inr (h.vivos q hmem))
    · exact h.acotados q (Or.inl hq)
    · exact h.acotados q (Or.inr hq)
  · exact h.cpus
  · exact h.ocupadas
  · intro q g hq hg hexec
    refine (h.apartados q g hq hg hexec).imp (fun hcola => ?_) id
    exact hcola.imp (List.mem_append_left _) id
  · exact h.sinAsignar

theorem Cupo.liberacion (h : s.Cupo cfg) (hsalida : s.salida = p :: ps)
    (hf : s.ficha p = some f) : Cupo cfg { s with
      salida := ps, ficha := Function.update s.ficha p none, lugares := s.lugares + 1 } := by
  have hp : p ∈ s.salida := hsalida ▸ List.mem_cons_self
  have hps : ∀ q, q ∈ ps → q ∈ s.salida := fun q hq => hsalida ▸ List.mem_cons_of_mem p hq
  have hotros : ∀ q, q ≠ p → q ∈ s.salida → q ∈ ps := fun q hqp hq => by
    rw [hsalida] at hq
    exact (List.mem_cons.1 hq).resolve_left hqp
  have hficha : ∀ q, q ≠ p → Function.update s.ficha p none q = s.ficha q :=
    fun q hq => Function.update_of_ne hq _ _
  have hpresente : ∀ q, Presente { s with
      salida := ps, ficha := Function.update s.ficha p none, lugares := s.lugares + 1 } q →
        s.Presente q := by
    rintro q (hcola | hcorre)
    · exact Or.inl (hcola.imp id (Or.imp id (hps q)))
    · exact Or.inr hcorre
  constructor
  · have herase : presentes { s with
        salida := ps, ficha := Function.update s.ficha p none, lugares := s.lugares + 1 }
          cfg.gradoMultiprocesamiento = (s.presentes cfg.gradoMultiprocesamiento).erase p := by
      ext q
      refine (mem_presentes ?_).trans ?_
      · exact h.cpus
      rw [Finset.mem_erase, mem_presentes h.cpus]
      by_cases hqp : q = p
      · subst hqp
        simp
      · dsimp only
        rw [hficha q hqp]
        refine ⟨fun hq => ⟨hqp, hq.1, hpresente q hq.2⟩, fun hq => ⟨hq.2.1, ?_⟩⟩
        exact hq.2.2.imp (Or.imp id (Or.imp id (hotros q hqp))) id
    have hpresentes : p ∈ s.presentes cfg.gradoMultiprocesamiento :=
      (mem_presentes h.cpus).2 ⟨Option.isSome_of_eq_some hf, Or.inl (Or.inr (Or.inr hp))⟩
    have hcuenta := h.cuenta
    have hcard := Finset.card_erase_add_one hpresentes
    rw [herase]
    dsimp only
    omega
  · exact h.nodup
  · intro q hq
    have hqp : q ≠ p := by
      rintro rfl
      exact h.ausentes q hq (Or.inl (Or.inr (Or.inr hp)))
    show (Function.update s.ficha p none q).isSome = true
    rw [hficha q hqp]
    exact h.vivos q hq
  · exact fun q hq hq' => h.ausentes q hq (hpresente q hq')
  · intro q hq
    refine h.acotados q (hq.imp (hpresente q) fun hq => ?_)
    by_cases hqp : q = p
    · rw [hqp]
      exact Option.isSome_of_eq_some hf
    · rwa [← hficha q hqp]
  · exact h.cpus
  · exact h.ocupadas
  · intro q g hq hg hexec
    have hqp : q ≠ p := by
      rintro rfl
      have hnone : Function.update s.ficha q none q = some g := hg
      rw [Function.update_self] at hnone
      cases hnone
    have hg' : s.ficha q = some g := by rw [← hficha q hqp]; exact hg
    refine (h.apartados q g hq hg' hexec).imp ?_ id
    exact Or.imp id (Or.imp id (hotros q hqp))
  · exact h.sinAsignar

theorem Cupo.conCorto (h : s.Cupo cfg) (hcorto : ∀ q, s.corto ≠ .asignando q) (corto : CortoPlazo)
    (hcorto' : ∀ q, corto ≠ .asignando q) : Cupo cfg { s with corto := corto } := by
  have hcorre : ∀ q, Corre { s with corto := corto } q ↔ s.Corre q := fun q =>
    or_congr Iff.rfl (iff_of_false (hcorto' q) (hcorto q))
  refine h.of_mismos (fun _ => rfl) (fun q => or_congr Iff.rfl (hcorre q)) rfl rfl le_rfl h.cpus
    h.ocupadas (fun q g hq => ?_) fun _ => hcorto'
  exact h.apartados q g ((hcorre q).1 hq)

theorem Cupo.eleccion (h : s.Cupo cfg) (halg : cfg.algoritmoPlanificacion = .sjf)
    (hcorto : ∀ q, s.corto ≠ .asignando q) (hp : s.listos[i]? = some p)
    (hf : s.ficha p = some f) : Cupo cfg ({ s with
      listos := s.listos.eraseIdx i, corto := .asignando p }.conFicha p { f with
        status := .exec }) := by
  have hperm := cons_eraseIdx_perm hp
  have hmem : ∀ q, q ∈ s.listos ↔ q = p ∨ q ∈ s.listos.eraseIdx i := fun q => by
    rw [← hperm.mem_iff, List.mem_cons]
  refine h.of_mismos (fun q => ?_) (fun q => ?_) rfl rfl le_rfl h.cpus h.ocupadas
    (fun q g hq hg hexec => ?_) (fun hhrrn => ?_)
  · exact isSome_conFicha (Option.isSome_of_eq_some hf) q
  · have hno := hcorto q
    show (q ∈ s.listos.eraseIdx i ∨ _) ∨
      ((∃ c, s.Ocupa q c) ∨ CortoPlazo.asignando p = .asignando q) ↔ _
    simp only [Presente, EnCola, Corre, hmem, CortoPlazo.asignando.injEq, eq_comm (a := p)]
    tauto
  · by_cases hqp : q = p
    · subst hqp
      have hg' : some { f with status := Status.exec } = some g := by
        rw [← hg]
        exact (Function.update_self q (some { f with status := .exec }) s.ficha).symm
      cases hg'
      exact absurd rfl hexec
    · have hg' : s.ficha q = some g := by
        rw [← hg]
        exact (Function.update_of_ne hqp (some { f with status := .exec }) s.ficha).symm
      have hcorre : s.Corre q := by
        rcases hq with hq | hq
        · exact Or.inl hq
        · cases hq
          exact absurd rfl hqp
      refine (h.apartados q g hcorre hg' hexec).imp ?_ id
      exact Or.imp (fun hq' => ((hmem q).1 hq').resolve_left hqp) id
  · rw [halg] at hhrrn
    cases hhrrn

theorem ocupa_conCpu_of_ne {cpu : Cpu} {c' : ℕ} (hc : c' ≠ c) :
    (s.conCpu c cpu).Ocupa p c' ↔ s.Ocupa p c' := by
  unfold Ocupa conCpu
  simp [hc]

theorem Cupo.asignacion (h : s.Cupo cfg) (hcorto : s.corto = .asignando p)
    (hc : c < cfg.gradoMultiprocesamiento) (hlibre : (s.cpu c).libre = true) :
    Cupo cfg ({ s with corto := .esperandoListo }.conCpu c ⟨false, p, .asignada⟩) := by
  have hajena : ∀ q c', s.Ocupa q c' → c' ≠ c := by
    rintro q c' hq rfl
    exact Bool.false_ne_true (hq.1.symm.trans hlibre)
  have hcpu : ∀ c', (Function.update s.cpu c ⟨false, p, .asignada⟩ c') =
      if c' = c then ⟨false, p, .asignada⟩ else s.cpu c' := fun c' => Function.update_apply _ _ _ _
  have hcorre : ∀ q, Corre ({ s with corto := .esperandoListo }.conCpu c ⟨false, p, .asignada⟩) q ↔
      s.Corre q := by
    intro q
    constructor
    · rintro (⟨c', hq⟩ | hq)
      · by_cases hcc : c' = c
        · subst hcc
          have hqp : p = q := by simpa [Ocupa, conCpu] using hq
          exact Or.inr (hqp ▸ hcorto)
        · exact Or.inl ⟨c', (ocupa_conCpu_of_ne hcc).1 hq⟩
      · cases hq
    · rintro (⟨c', hq⟩ | hq)
      · exact Or.inl ⟨c', (ocupa_conCpu_of_ne (hajena q c' hq)).2 hq⟩
      · rw [hcorto] at hq
        cases hq
        exact Or.inl ⟨c, by simp [Ocupa, conCpu]⟩
  refine h.of_mismos (fun _ => rfl) (fun q => or_congr Iff.rfl (hcorre q)) rfl rfl le_rfl
    (fun c' hc' => ?_) (fun c' hc' => ?_) (fun q g hq hg hexec => ?_) (fun _ q => by simp [conCpu])
  · by_cases hcc : c' = c
    · exact hcc ▸ hc
    · exact h.cpus c' (by simpa [conCpu, hcc] using hc')
  · by_cases hcc : c' = c
    · simp [conCpu, hcc]
    · have hocupada := h.ocupadas c'
      simp only [conCpu, hcpu, if_neg hcc] at hc' ⊢
      exact hocupada hc'
  · rcases h.apartados q g ((hcorre q).1 hq) hg hexec with hcola | ⟨c', hocupa, hbloqueando⟩
    · exact Or.inl hcola
    · have hcc := hajena q c' hocupa
      exact Or.inr ⟨c', (ocupa_conCpu_of_ne hcc).2 hocupa, by simpa [conCpu, hcc] using hbloqueando⟩

theorem Cupo.suelta (h : s.Cupo cfg) (hetapa : (s.cpu c).etapa = .ciclo)
    (hf : s.ficha (s.cpu c).pcbCarpincho = some f) (hexec : f.status ≠ .exec) :
    (s.conCpu c ⟨true, (s.cpu c).pcbCarpincho, .esperando⟩).Cupo cfg := by
  have hocupa : s.Ocupa (s.cpu c).pcbCarpincho c := h.ocupa (by rw [hetapa]; simp)
  have hajena : ∀ c', (s.cpu c').etapa.bloqueando = true → c' ≠ c := by
    rintro c' hc' rfl
    rw [hetapa] at hc'
    cases hc'
  have hde : ∀ q c', Ocupa (s.conCpu c ⟨true, (s.cpu c).pcbCarpincho, .esperando⟩) q c' →
      s.Ocupa q c' := by
    intro q c' hq
    by_cases hcc : c' = c
    · subst hcc
      simp [Ocupa, conCpu] at hq
    · exact (ocupa_conCpu_of_ne hcc).1 hq
  have hapartado : ∀ q, s.Apartado q →
      Apartado (s.conCpu c ⟨true, (s.cpu c).pcbCarpincho, .esperando⟩) q := by
    rintro q (hcola | ⟨c', hq, hbloqueando⟩)
    · exact Or.inl hcola
    · have hcc := hajena c' hbloqueando
      exact Or.inr ⟨c', (ocupa_conCpu_of_ne hcc).2 hq, by simpa [conCpu, hcc] using hbloqueando⟩
  refine h.of_mismos (fun _ => rfl) (fun q => ⟨?_, ?_⟩) rfl rfl le_rfl
    (fun c' hc' => ?_) (fun c' hc' => ?_) (fun q g hq hg hg' => ?_) h.sinAsignar
  · exact Or.imp id (Or.imp (fun ⟨c', hq⟩ => ⟨c', hde q c' hq⟩) id)
  · rintro (hcola | ⟨c', hq⟩ | hq)
    · exact Or.inl hcola
    · by_cases hcc : c' = c
      · subst hcc
        obtain rfl : (s.cpu c').pcbCarpincho = q := hq.2
        exact (hapartado _ (h.apartados _ f (Or.inl ⟨c', hocupa⟩) hf hexec)).presente
      · exact Or.inr (Or.inl ⟨c', (ocupa_conCpu_of_ne hcc).2 hq⟩)
    · exact Or.inr (Or.inr hq)
  · exact h.cpus c' (hde _ c' ⟨hc', rfl⟩).1
  · by_cases hcc : c' = c
    · subst hcc
      simp [conCpu] at hc'
    · simp only [conCpu, Function.update_apply, if_neg hcc] at hc' ⊢
      exact h.ocupadas c' hc'
  · refine hapartado q (h.apartados q g ?_ hg hg')
    exact hq.imp (fun ⟨c', hq⟩ => ⟨c', hde q c' hq⟩) id

end Movimientos

end Tablero

namespace Estado

/-- No carpincho is suspended, none is freed by the detector, and `buscarCPULibre` gives a CPU. -/
def conservaLugar (k : Estado) : Turno → Bool
  | .hilo .medianoPlazo =>
    ¬ (k.processReady = [] ∧ k.processBlocked ≠ [] ∧ k.processNew ≠ [])
  | .sinCpu => false
  | .terminacion pid =>
    !(k.processBlocked.take (k.processBlocked.length - 1)).any (k.tienePid pid)
  | _ => true

variable {cfg : Config} {k k' : Estado} {m : Turno} {ps : List ℕ} {s : Tablero}

open Tablero

section Cpus

variable {c : ℕ} {e etapa : Etapa} {f : Ficha}

theorem cupo_avanza (hk : s.Cupo cfg) (he : (s.cpu c).etapa = e) (hespera : e ≠ .esperando)
    (hbloqueando : e.bloqueando = false) : (s.conEtapa c etapa).Cupo cfg := by
  refine hk.conEtapa (he ▸ hespera) fun hb => ?_
  rw [he, hbloqueando] at hb
  cases hb

theorem cupo_bloqueando (hk : s.Cupo cfg) (he : (s.cpu c).etapa = .recibiendo)
    (hf : s.ficha (s.cpu c).pcbCarpincho = some f) (hetapa : etapa.bloqueando = true)
    (f' : Ficha) : ((s.conFicha (s.cpu c).pcbCarpincho f').conEtapa c etapa).Cupo cfg := by
  have hocupa := hk.ocupa (c := c) (by rw [he]; simp)
  have havanza : (s.conEtapa c etapa).Cupo cfg := cupo_avanza hk he (by simp) rfl
  have hficha := havanza.conFicha f' (Option.isSome_of_eq_some hf) fun _ _ =>
    Or.inr ⟨c, (ocupa_conEtapa c).2 hocupa, by
      simpa [Tablero.conEtapa, Tablero.conCpu] using hetapa⟩
  exact hficha

theorem cupo_encola (hk : s.Cupo cfg) (he : (s.cpu c).etapa ≠ .esperando) {b l : List ℕ}
    (hb : b = s.bloqueados ++ [(s.cpu c).pcbCarpincho] ∧ l = s.salida ∨
      b = s.bloqueados ∧ l = s.salida ++ [(s.cpu c).pcbCarpincho]) :
    Cupo cfg { s with bloqueados := b, salida := l } ∧
      EnCola { s with bloqueados := b, salida := l } (s.cpu c).pcbCarpincho := by
  have hpresente : s.Presente (s.cpu c).pcbCarpincho := Or.inr (Or.inl ⟨c, hk.ocupa he⟩)
  refine ⟨hk.conColas s.listos b l (fun q hq => ?_) fun q hq => ?_, Or.inr ?_⟩
  · rcases hb with ⟨rfl, rfl⟩ | ⟨rfl, rfl⟩
    · exact hq.imp id (Or.imp (List.mem_append_left _) id)
    · exact hq.imp id (Or.imp id (List.mem_append_left _))
  · by_cases hqc : q = (s.cpu c).pcbCarpincho
    · exact hqc ▸ hpresente
    · refine Or.inl (hq.imp id ?_)
      rcases hb with ⟨rfl, rfl⟩ | ⟨rfl, rfl⟩ <;>
        simpa only [List.mem_append, List.mem_singleton, hqc, or_false] using id
  · rcases hb with ⟨rfl, rfl⟩ | ⟨rfl, rfl⟩ <;> simp

theorem atendiendo_sin_bloquear (h : e.atendiendo = true) :
    e ≠ .esperando ∧ e.bloqueando = false := by
  cases e <;> simp_all [Etapa.atendiendo, Etapa.bloqueando]

end Cpus

theorem jugada_cupo (h : Jugada cfg k m ps s) (hk : k.tablero.Cupo cfg)
    (hm : k.conservaLugar m = true) : s.Cupo cfg := by
  have hlisto : k.cortoPlazo = .esperandoListo → ∀ q, k.tablero.corto ≠ .asignando q := by
    intro hcorto q
    rw [show k.tablero.corto = _ from hcorto]
    simp
  have hplanificar : k.cortoPlazo = .esperandoPlanificar → ∀ q, k.tablero.corto ≠ .asignando q := by
    intro hcorto q
    rw [show k.tablero.corto = _ from hcorto]
    simp
  cases h with
  | quieta _ => exact hk
  | llegada pid => exact hk.llegada _
  | admision p n ps hlugares hnuevos => exact hk.admision hlugares hnuevos _
  | espera i n hcorto _ =>
    exact (hk.conCorto (hlisto hcorto) .esperandoPlanificar (by simp)).conCantidad n
  | eleccion i p f halg hcorto _ hp hf => exact hk.eleccion halg (hplanificar hcorto) hp hf
  | salto i _ hcorto _ => exact hk.conCorto (hplanificar hcorto) _ (by simp)
  | asignacion i p c _ hcorto hc hlibre => exact hk.asignacion hcorto hc hlibre
  | perdida p _ => cases hm
  | ratio i p f halg _ _ hf =>
    have hcorto := hk.conCorto (hk.sinAsignar halg) .esperandoListo (by simp)
    exact hcorto.conFicha _ (Option.isSome_of_eq_some hf) fun hexec => absurd rfl hexec
  | suspension p hready hblocked hnew _ =>
    exact absurd ⟨hready, hblocked, hnew⟩ (of_decide_eq_true hm)
  | finIo h => exact h.cupo hk
  | liberacion p ps f hsalida hf => exact hk.liberacion hsalida hf
  | reposicion pid elegidos resto _ _ hperm =>
    have hmem : ∀ q, q ∈ k.tablero.bloqueados ↔ q ∈ resto ∨ q ∈ elegidos := fun q => by
      rw [← List.mem_append]
      exact hperm.mem_iff
    refine hk.conColas (k.tablero.listos ++ elegidos) resto k.tablero.salida (fun q hq => ?_)
      fun q hq => ?_
    · simp only [EnCola, hmem, List.mem_append] at hq ⊢
      tauto
    · refine Or.inl ?_
      simp only [EnCola, hmem, List.mem_append] at hq ⊢
      tauto
  | terminacion pid elegidos resto hpid _ =>
    rw [conservaLugar, hpid] at hm
    cases hm
  | comienzo c hetapa => exact cupo_avanza hk hetapa (by simp) rfl
  | escucha c f hetapa _ _ _ => exact cupo_avanza hk hetapa (by simp) rfl
  | hallaIo c f hetapa _ _ _ => exact cupo_avanza hk hetapa (by simp) rfl
  | respuestaIo c hetapa => exact cupo_avanza hk hetapa (by simp) rfl
  | limpiezaIo c f hetapa hf =>
    have hocupa : k.tablero.Ocupa (k.cpusExec c).pcbCarpincho c := hk.ocupa (by
      rw [show (k.tablero.cpu c).etapa = _ from hetapa]
      simp)
    have hficha := hk.conFicha { f with ioFinished := false } (Option.isSome_of_eq_some hf)
      fun hno _ => hk.apartados _ f (Or.inl ⟨c, hocupa⟩) hf hno
    exact cupo_avanza hficha hetapa (by simp) rfl
  | suelta c f hetapa hf hexec => exact hk.suelta hetapa hf hexec
  | bloqueoIo c f hetapa hf =>
    have hespera : (k.tablero.cpu c).etapa ≠ .esperando := fun h => by
      rw [show (k.tablero.cpu c).etapa = _ from hetapa] at h
      cases h
    obtain ⟨hcolas, hcola⟩ := cupo_encola hk hespera (Or.inl ⟨rfl, rfl⟩)
    have hficha := hcolas.conFicha { f with ioFinished := true }
      (Option.isSome_of_eq_some hf) fun _ _ => Or.inl hcola
    exact hficha.conEtapa hespera fun _ => hcola
  | bloqueoWait c hetapa =>
    have hespera : (k.tablero.cpu c).etapa ≠ .esperando := fun h => by
      rw [show (k.tablero.cpu c).etapa = _ from hetapa] at h
      cases h
    obtain ⟨hcolas, hcola⟩ := cupo_encola hk hespera (Or.inl ⟨rfl, rfl⟩)
    exact hcolas.conEtapa hespera fun _ => hcola
  | fin c n hetapa hn h =>
    obtain ⟨hespera, hbloqueando⟩ := atendiendo_sin_bloquear hetapa
    have hproxima := (h.cupo hk).conProxima (h.proxima_eq.le.trans hn)
    exact cupo_avanza hproxima (congrFun h.cpu_eq c ▸ rfl) hespera hbloqueando
  | memoria c hetapa => exact cupo_avanza hk hetapa (by simp) rfl
  | pedidoIo c nombre f hetapa hf => exact cupo_bloqueando hk hetapa hf rfl _
  | pedidoWait c sema f hetapa hf _ => exact cupo_bloqueando hk hetapa hf rfl _
  | pedidoSemaforo c sema etapa hetapa _ => exact cupo_avanza hk hetapa (by simp) rfl
  | respuestaSemaforo c sema hetapa => exact cupo_avanza hk hetapa (by simp) rfl
  | finalizacion c f hetapa hf =>
    have hespera : (k.tablero.cpu c).etapa ≠ .esperando := fun h => by
      rw [show (k.tablero.cpu c).etapa = _ from hetapa] at h
      cases h
    obtain ⟨hcolas, hcola⟩ := cupo_encola hk hespera (Or.inr ⟨rfl, rfl⟩)
    have hficha := hcolas.conFicha { f with status := .finished }
      (Option.isSome_of_eq_some hf) fun _ _ => Or.inl hcola
    exact hficha.conEtapa hespera fun _ => hcola

theorem inicial_cupo (cfg : Config) : (inicial cfg).tablero.Cupo cfg := by
  have hlibre : ∀ c, ((inicial cfg).tablero.cpu c).libre = true := fun _ => rfl
  have hcorre : ∀ p, ¬ (inicial cfg).tablero.Corre p := by
    rintro p (⟨c, hc⟩ | hc)
    · exact Bool.false_ne_true (hc.1.symm.trans (hlibre c))
    · cases hc
  have hpresente : ∀ p, ¬ (inicial cfg).tablero.Presente p := by
    rintro p ((hp | hp | hp) | hp)
    · cases hp
    · cases hp
    · cases hp
    · exact hcorre p hp
  have hcpus : ∀ c, ((inicial cfg).tablero.cpu c).libre = false →
      c < cfg.gradoMultiprocesamiento := fun c hc => absurd hc (by rw [hlibre]; simp)
  constructor
  · have hvacio : (inicial cfg).tablero.presentes cfg.gradoMultiprocesamiento = ∅ := by
      refine Finset.eq_empty_of_forall_notMem fun p hp => ?_
      exact hpresente p ((mem_presentes hcpus).1 hp).2
    rw [hvacio]
    rfl
  · exact List.nodup_nil
  · intro p hp
    cases hp
  · intro p hp
    cases hp
  · rintro p (hp | hp)
    · exact absurd hp (hpresente p)
    · cases hp
  · exact hcpus
  · exact fun c hc => absurd rfl hc
  · exact fun p f hp => absurd hp (hcorre p)
  · intro _ p hp
    cases hp

/-- In every run in which no carpincho is suspended, freed by the detector or left without a
CPU, the places left and the carpinchos in READY, on a CPU, in BLOCKED and in EXIT add up to
the degree whenever none is on its way to a CPU. -/
theorem grado_conservado (cfg : Config) {ms : List Turno} {k : Estado}
    (h : Reaches (pasoTurno cfg) (fun k m => k.conservaLugar m = true) (inicial cfg) ms k)
    (hmano : ∀ p, k.cortoPlazo ≠ .asignando p) :
    k.puedeEntrarAlSistema + (k.tablero.dentro cfg.gradoMultiprocesamiento).card =
      cfg.gradoMultiprogramacion := by
  have hcupo : k.tablero.Cupo cfg := by
    have hpasos : ∀ k m o k', k.tablero.Cupo cfg → k.conservaLugar m = true →
        pasoTurno cfg m k = .ok (o, k') → k'.tablero.Cupo cfg := fun k m o k' hk hm hpaso =>
      jugada_cupo (pasoTurno_jugada hpaso) hk hm
    exact h.invariant hpasos (inicial_cupo cfg)
  rw [← presentes_eq_dentro hmano]
  exact hcupo.cuenta

section Corridas

def configUnLugar : Config where
  gradoMultiprogramacion := 1
  gradoMultiprocesamiento := 1
  algoritmoPlanificacion := .sjf

def bloqueado : List Evento := despachar 1 ++ [.recibe 0 (.io "disco"), .cpu 0, .cpu 0]

/-- A carpincho is suspended to let another one in, and the place is lost. -/
theorem lugar_perdido :
    ¬ ∀ (cfg : Config) (ms : List Turno) (k : Estado),
      Reaches (pasoTurno cfg) (fun _ _ => True) (inicial cfg) ms k →
      (∀ p, k.cortoPlazo ≠ .asignando p) →
      k.puedeEntrarAlSistema + (k.tablero.dentro cfg.gradoMultiprocesamiento).card =
        cfg.gradoMultiprogramacion := by
  intro h
  have hcorrida : (guardedRun (pasoTurno configUnLugar) (fun _ _ => true)
      (hilos (bloqueado ++ [.llegada 2, .medianoPlazo])) (inicial configUnLugar)).any
      (fun k => k.cortoPlazo = .esperandoListo ∧ k.puedeEntrarAlSistema = 0 ∧
        k.tablero.dentro 1 = ∅) = true := by
    decide +kernel
  obtain ⟨k, hk, hfin⟩ := (Option.any_eq_true _ _).1 hcorrida
  obtain ⟨hcorto, hlugares, hdentro⟩ := of_decide_eq_true hfin
  have hgrado := h configUnLugar _ k ((reaches_of_guardedRun hk).mono fun _ _ _ => trivial)
    (by rw [hcorto]; simp)
  rw [hlugares, show configUnLugar.gradoMultiprocesamiento = 1 from rfl, hdentro] at hgrado
  cases hgrado

/-- The carpincho is unblocked, runs again, ends and is freed; another one comes in. -/
theorem grado_conservado_relevo :
    ∃ k, Reaches (pasoTurno configUnLugar) (fun k m => k.conservaLugar m = true)
      (inicial configUnLugar) (hilos (bloqueado ++ [.planificadorIo, .planificadorIo] ++
        List.replicate 3 (.cortoPlazo 0) ++ List.replicate 4 (.cpu 0) ++
        [.recibe 0 .finalizacion, .cpu 0, .finalizarProceso] ++
          [.llegada 2, .largoPlazo, .largoPlazo, .largoPlazo])) k ∧
      k.processReady = [1] ∧ k.puedeEntrarAlSistema + (k.tablero.dentro 1).card = 1 := by
  have hcorrida : (guardedRun (pasoTurno configUnLugar) conservaLugar
      (hilos (bloqueado ++ [.planificadorIo, .planificadorIo] ++
        List.replicate 3 (.cortoPlazo 0) ++ List.replicate 4 (.cpu 0) ++
        [.recibe 0 .finalizacion, .cpu 0, .finalizarProceso] ++
          [.llegada 2, .largoPlazo, .largoPlazo, .largoPlazo]))
      (inicial configUnLugar)).any
      (fun k => k.cortoPlazo = .esperandoListo ∧ k.processReady = [1]) = true := by
    decide +kernel
  obtain ⟨k, hk, hfin⟩ := (Option.any_eq_true _ _).1 hcorrida
  obtain ⟨hcorto, hready⟩ := of_decide_eq_true hfin
  have hreaches := reaches_of_guardedRun hk
  refine ⟨k, hreaches, hready, ?_⟩
  exact grado_conservado configUnLugar hreaches (by rw [hcorto]; simp)

end Corridas

end Estado

end Carpinchos.Kernel
