import Carpinchos.Kernel.Grado
import Carpinchos.Kernel.Rafagas

/-!
# One place for each carpincho

A step takes one thread from a wait or a move between queues to the next one, in any order. A
CPU goes on for a while after it has blocked its carpincho, and reads its status before it lets
go of it; when the planner does not choose the carpincho in between, every carpincho is in one
queue, in the hands of the planner or on one CPU, and nowhere else.
-/

namespace Carpinchos.Kernel

open Outcome Runs Queues

inductive Puesto
  | nuevos
  | listos
  | mano
  | cpu (c : ℕ)
  | bloqueados
  | suspendidos
  | salida
  deriving DecidableEq, Repr

namespace Tablero

section Puestos

variable (s : Tablero)

def Vivo (p : ℕ) : Prop := (s.ficha p).isSome

def ejecuta (p : ℕ) : Bool := (s.ficha p).any fun f => f.status = .exec

/-- The CPU has its carpincho. At the top of its loop it has it as long as the status says so. -/
def corre (c : ℕ) : Bool :=
  match (s.cpu c).etapa with
  | .esperando => false
  | .ciclo => s.ejecuta (s.cpu c).pcbCarpincho
  | _ => true

def puesto : Puesto → List ℕ
  | .nuevos => s.nuevos
  | .listos => s.listos
  | .mano => s.enMano
  | .cpu c => if s.corre c then [(s.cpu c).pcbCarpincho] else []
  | .bloqueados => s.bloqueados
  | .suspendidos => s.suspendidos
  | .salida => s.salida

/-- The status of a carpincho is EXEC on its CPU, until it is about to be blocked. -/
structure Fases (cfg : Config) : Prop where
  fase : ∀ c, s.corre c = true →
    s.ejecuta (s.cpu c).pcbCarpincho = !(s.cpu c).etapa.bloqueando
  mano : ∀ p, s.corto = .asignando p → s.ejecuta p = true ∧ cfg.algoritmoPlanificacion = .sjf
  ocupada : ∀ c, (s.cpu c).etapa ≠ .esperando →
    (s.cpu c).libre = false ∧ c < cfg.gradoMultiprocesamiento

structure Ubicado (cfg : Config) : Prop extends Fases s cfg where
  reparto : Partitions s.Vivo s.puesto
  frescos : ∀ p, s.Vivo p → p < s.proxima

end Puestos

section Cpus

variable {cfg : Config} {s s' : Tablero} {c c' p : ℕ} {f : Ficha} {a : Puesto}

theorem mem_puesto_cpu : p ∈ s.puesto (.cpu c) ↔ s.corre c = true ∧ p = (s.cpu c).pcbCarpincho := by
  unfold puesto
  split <;> simp_all

theorem corre_eq (h : (s.cpu c).etapa ≠ .esperando)
    (hciclo : (s.cpu c).etapa = .ciclo → s.ejecuta (s.cpu c).pcbCarpincho = true) :
    s.corre c = true := by
  unfold corre
  split
  · next hetapa => exact absurd hetapa h
  · next hetapa => exact hciclo hetapa
  · rfl

theorem ejecuta_eq (hf : s.ficha p = some f) : s.ejecuta p = decide (f.status = .exec) := by
  rw [ejecuta, hf]
  rfl

theorem enMano_eq_nil (h : ∀ p, s.corto ≠ .asignando p) : s.enMano = [] :=
  List.eq_nil_iff_forall_not_mem.2 fun p hp => h p (mem_enMano.1 hp)

theorem etapa_of_not_corre (h : s.corre c = false) (hc : (s.cpu c).etapa ≠ .esperando) :
    (s.cpu c).etapa = .ciclo ∧ s.ejecuta (s.cpu c).pcbCarpincho = false := by
  unfold corre at h
  split at h
  · next hetapa => exact absurd hetapa hc
  · next hetapa => exact ⟨hetapa, h⟩
  · cases h

theorem corre_congr (hcpu : s'.cpu c = s.cpu c) (hejecuta : (s.cpu c).etapa ≠ .esperando →
    s'.ejecuta (s.cpu c).pcbCarpincho = s.ejecuta (s.cpu c).pcbCarpincho) :
    s'.corre c = s.corre c := by
  unfold corre
  rw [hcpu]
  cases hetapa : (s.cpu c).etapa with
  | ciclo => exact hejecuta (by rw [hetapa]; simp)
  | _ => rfl

theorem ejecuta_conFicha (s : Tablero) (p : ℕ) (f : Ficha) (q : ℕ) :
    (s.conFicha p f).ejecuta q = if q = p then decide (f.status = .exec) else s.ejecuta q := by
  unfold ejecuta conFicha
  by_cases hq : q = p
  · subst hq
    simp
  · simp [hq]

theorem conFicha_self (hf : s.ficha p = some f) : s.conFicha p f = s := by
  rw [conFicha, ← hf, Function.update_eq_self]

theorem vivo_conFicha (hf : s.ficha p = some f) (f' : Ficha) (q : ℕ) :
    (s.conFicha p f').Vivo q ↔ s.Vivo q := by
  unfold Vivo conFicha
  by_cases hq : q = p
  · subst hq
    simp [hf]
  · simp [hq]

theorem Ubicado.tardia (h : s.Ubicado cfg) (hp : p ∈ s.puesto a) (ha : ∀ c, a ≠ .cpu c)
    (hpcb : (s.cpu c).pcbCarpincho = p) (hc : (s.cpu c).etapa ≠ .esperando) :
    s.ejecuta p = false := by
  cases hcorre : s.corre c with
  | true =>
    have hcpu : p ∈ s.puesto (.cpu c) := mem_puesto_cpu.2 ⟨hcorre, hpcb.symm⟩
    exact absurd (h.reparto.disjoint _ _ p hp hcpu) (ha c)
  | false => rw [← hpcb, (etapa_of_not_corre hcorre hc).2]

theorem Ubicado.unica (h : s.Ubicado cfg) (hc : s.corre c = true)
    (hejecuta : s.ejecuta (s.cpu c).pcbCarpincho = true) (hne : c' ≠ c)
    (hpcb : (s.cpu c').pcbCarpincho = (s.cpu c).pcbCarpincho) :
    (s.cpu c').etapa = .esperando := by
  by_contra hno
  have hcorre : s.corre c' = true := corre_eq hno fun _ => by rw [hpcb, hejecuta]
  have hdos := h.reparto.disjoint (.cpu c') (.cpu c) _ (mem_puesto_cpu.2 ⟨hcorre, rfl⟩)
    (mem_puesto_cpu.2 ⟨hc, hpcb⟩)
  exact hne (Puesto.cpu.inj hdos)

theorem Fases.ajena (h : s.Fases cfg) (hcpu : s'.cpu c = s.cpu c)
    (hejecuta : (s.cpu c).etapa ≠ .esperando →
      s'.ejecuta (s.cpu c).pcbCarpincho = s.ejecuta (s.cpu c).pcbCarpincho) :
    (s'.corre c = true → s'.ejecuta (s'.cpu c).pcbCarpincho = !(s'.cpu c).etapa.bloqueando) ∧
      s'.puesto (.cpu c) = s.puesto (.cpu c) := by
  have hcorre : s'.corre c = s.corre c := corre_congr hcpu hejecuta
  refine ⟨fun hc => ?_, by rw [puesto, puesto, hcorre, hcpu]⟩
  rw [hcorre] at hc
  rw [hcpu, ← h.fase c hc]
  refine hejecuta fun hno => ?_
  rw [corre, hno] at hc
  cases hc

theorem Fases.una (h : s.Fases cfg) (s' : Tablero) (hcpu : ∀ c', c' ≠ c → s'.cpu c' = s.cpu c')
    (hejecuta : ∀ c', c' ≠ c → (s.cpu c').etapa ≠ .esperando →
      s'.ejecuta (s.cpu c').pcbCarpincho = s.ejecuta (s.cpu c').pcbCarpincho)
    (hmano : ∀ p, s'.corto = .asignando p →
      s'.ejecuta p = true ∧ cfg.algoritmoPlanificacion = .sjf)
    (hfase : s'.corre c = true →
      s'.ejecuta (s'.cpu c).pcbCarpincho = !(s'.cpu c).etapa.bloqueando)
    (hocupada : (s'.cpu c).etapa ≠ .esperando →
      (s'.cpu c).libre = false ∧ c < cfg.gradoMultiprocesamiento) :
    s'.Fases cfg ∧ ∀ c', c' ≠ c → s'.puesto (.cpu c') = s.puesto (.cpu c') := by
  refine ⟨⟨fun c' hc' => ?_, hmano, fun c' hc' => ?_⟩,
    fun c' hne => (h.ajena (hcpu c' hne) (hejecuta c' hne)).2⟩
  · by_cases hne : c' = c
    · exact hne ▸ hfase (hne ▸ hc')
    · exact (h.ajena (hcpu c' hne) (hejecuta c' hne)).1 hc'
  · by_cases hne : c' = c
    · exact hne ▸ hocupada (hne ▸ hc')
    · rw [hcpu c' hne] at hc' ⊢
      exact h.ocupada c' hc'

theorem Fases.congr (h : s.Fases cfg) (s' : Tablero) (hcpu : s'.cpu = s.cpu)
    (hejecuta : ∀ c, (s.cpu c).etapa ≠ .esperando →
      s'.ejecuta (s.cpu c).pcbCarpincho = s.ejecuta (s.cpu c).pcbCarpincho)
    (hmano : ∀ p, s'.corto = .asignando p →
      s'.ejecuta p = true ∧ cfg.algoritmoPlanificacion = .sjf) :
    s'.Fases cfg ∧ ∀ c, s'.puesto (.cpu c) = s.puesto (.cpu c) := by
  refine ⟨⟨fun c hc => (h.ajena (congrFun hcpu c) (hejecuta c)).1 hc, hmano, fun c hc => ?_⟩,
    fun c => (h.ajena (congrFun hcpu c) (hejecuta c)).2⟩
  rw [hcpu] at hc ⊢
  exact h.ocupada c hc

end Cpus

section Traslados

variable {cfg : Config} {s s' : Tablero} {p i n : ℕ} {f f' : Ficha} {a b : Puesto}
  {resto elegidos ps : List ℕ}

/-- Some carpinchos go from one place to another. -/
theorem Ubicado.traslada (h : s.Ubicado cfg) (hfases : s'.Fases cfg)
    (hperm : (s.puesto a).Perm (resto ++ elegidos))
    (hpuesto : s'.puesto = move s.puesto a b resto elegidos)
    (hvivo : ∀ p, s'.Vivo p ↔ s.Vivo p) (hproxima : s.proxima ≤ s'.proxima) :
    s'.Ubicado cfg where
  toFases := hfases
  reparto := by
    rw [hpuesto]
    exact (h.reparto.move hperm b).congr hvivo
  frescos q hq := (h.frescos q ((hvivo q).1 hq)).trans_le hproxima

theorem Ubicado.libera (h : s.Ubicado cfg) (hfases : s'.Fases cfg)
    (hperm : (s.puesto a).Perm (resto ++ elegidos))
    (hpuesto : s'.puesto = Function.update s.puesto a resto)
    (hvivo : ∀ p, s'.Vivo p ↔ s.Vivo p ∧ p ∉ elegidos) (hproxima : s'.proxima = s.proxima) :
    s'.Ubicado cfg where
  toFases := hfases
  reparto := by
    rw [hpuesto]
    exact (h.reparto.remove hperm).congr hvivo
  frescos q hq := by
    rw [hproxima]
    exact h.frescos q ((hvivo q).1 hq).1

theorem Ubicado.queda (h : s.Ubicado cfg) (hfases : s'.Fases cfg) (hpuesto : s'.puesto = s.puesto)
    (hvivo : ∀ p, s'.Vivo p ↔ s.Vivo p) (hproxima : s.proxima ≤ s'.proxima) :
    s'.Ubicado cfg where
  toFases := hfases
  reparto := by
    rw [hpuesto]
    exact h.reparto.congr hvivo
  frescos q hq := (h.frescos q ((hvivo q).1 hq)).trans_le hproxima

theorem Ubicado.llegada (h : s.Ubicado cfg) (hs : s' = { s with
    nuevos := s.nuevos ++ [s.proxima], proxima := s.proxima + 1 }.conFicha s.proxima
      ⟨.new, false⟩) : s'.Ubicado cfg := by
  have hnadie : ¬ s.Vivo s.proxima := fun hno => (h.frescos _ hno).false
  have hejecuta (q : ℕ) : s'.ejecuta q = s.ejecuta q := by
    rw [hs, ejecuta_conFicha]
    split
    · next hq =>
      subst hq
      rw [Vivo, Option.not_isSome_iff_eq_none] at hnadie
      rw [ejecuta, hnadie]
      rfl
    · rfl
  have hmano (q : ℕ) (hq : s'.corto = .asignando q) := h.mano q (by rwa [hs] at hq)
  obtain ⟨hfases, hcpus⟩ := h.toFases.congr s' (by rw [hs]; rfl) (fun c _ => hejecuta _)
    fun q hq => ⟨(hejecuta q).trans (hmano q hq).1, (hmano q hq).2⟩
  have hpuesto : s'.puesto = append s.puesto .nuevos [s.proxima] := by
    funext l
    cases l with
    | cpu c => exact hcpus c
    | _ => rw [hs]; rfl
  have hvivo (q : ℕ) : s.Vivo q ∨ q ∈ [s.proxima] ↔ s'.Vivo q := by
    rw [hs, List.mem_singleton]
    by_cases hq : q = s.proxima <;> simp [Vivo, conFicha, hq]
  have hnuevo := h.reparto.append (a := .nuevos) (List.nodup_singleton s.proxima)
    fun q hq => List.mem_singleton.1 hq ▸ hnadie
  refine ⟨hfases, ?_, fun q hq => ?_⟩
  · rw [hpuesto]
    exact hnuevo.congr fun q => (hvivo q).symm
  · have hproxima : s'.proxima = s.proxima + 1 := by rw [hs]; rfl
    rw [hproxima]
    rcases (hvivo q).2 hq with hq | hq
    · exact (h.frescos q hq).trans (Nat.lt_succ_self _)
    · exact (List.mem_singleton.1 hq).symm ▸ Nat.lt_succ_self _

theorem Ubicado.mueve (h : s.Ubicado cfg) (hficha : s'.ficha = s.ficha) (hcpu : s'.cpu = s.cpu)
    (hcorto : s'.corto = s.corto) (hproxima : s'.proxima = s.proxima)
    (hperm : (s.puesto a).Perm (resto ++ elegidos))
    (hpuesto : ∀ l, (∀ c, l ≠ .cpu c) → s'.puesto l = move s.puesto a b resto elegidos l)
    (ha : ∀ c, a ≠ .cpu c) (hb : ∀ c, b ≠ .cpu c) : s'.Ubicado cfg := by
  have hejecuta (q : ℕ) : s'.ejecuta q = s.ejecuta q := by rw [ejecuta, ejecuta, hficha]
  obtain ⟨hfases, hcpus⟩ := h.toFases.congr s' hcpu (fun c _ => hejecuta _) fun q hq => by
    rw [hejecuta]
    exact h.mano q (hcorto ▸ hq)
  refine h.traslada (b := b) hfases hperm (funext fun l => ?_) (fun q => ?_) hproxima.ge
  · by_cases hl : ∃ c, l = .cpu c
    · obtain ⟨c, rfl⟩ := hl
      rw [hcpus, move, append, Function.update_of_ne (hb c).symm, Function.update_of_ne (ha c).symm]
    · exact hpuesto l fun c hc => hl ⟨c, hc⟩
  · rw [Vivo, Vivo, hficha]

theorem Ubicado.eleccion (h : s.Ubicado cfg) (halg : cfg.algoritmoPlanificacion = .sjf)
    (hcorto : s.corto = .esperandoPlanificar) (hp : s.listos[i]? = some p)
    (hf : s.ficha p = some f)
    (hlibre : ∀ c, (s.cpu c).pcbCarpincho = p → (s.cpu c).etapa = .esperando)
    (hs : s' = { s with listos := s.listos.eraseIdx i, corto := .asignando p }.conFicha p
      { f with status := .exec }) : s'.Ubicado cfg := by
  have hejecuta (q : ℕ) : s'.ejecuta q = if q = p then true else s.ejecuta q := by
    rw [hs, ejecuta_conFicha]
    rfl
  obtain ⟨hfases, hcpus⟩ := h.toFases.congr s' (by rw [hs]; rfl)
    (fun c hc => by rw [hejecuta, if_neg fun hpcb => hc (hlibre c hpcb)]) fun q hq => by
      rw [hs] at hq
      obtain rfl := CortoPlazo.asignando.inj hq
      exact ⟨by rw [hejecuta, if_pos rfl], halg⟩
  have hperm : (s.puesto .listos).Perm (s.listos.eraseIdx i ++ [p]) := perm_eraseIdx_append hp
  refine h.traslada (b := .mano) hfases hperm (funext fun l => ?_) (fun q => ?_) ?_
  · cases l with
    | cpu c => exact hcpus c
    | mano =>
      rw [hs]
      simp [move, append, puesto, enMano, hcorto, conFicha]
    | _ => rw [hs]; rfl
  · rw [hs]
    exact vivo_conFicha (s := { s with
      listos := s.listos.eraseIdx i, corto := .asignando p }) hf _ q
  · rw [hs]
    exact le_rfl

/-- Under HRRN the carpincho that is chosen stays in READY. -/
theorem Ubicado.ratio (h : s.Ubicado cfg) (hcorto : ∀ q, s.corto ≠ .asignando q)
    (hf : s.ficha p = some f)
    (hlibre : ∀ c, (s.cpu c).pcbCarpincho = p → (s.cpu c).etapa = .esperando)
    (hs : s' = { s with corto := .esperandoListo }.conFicha p { f with status := .exec }) :
    s'.Ubicado cfg := by
  have hejecuta (q : ℕ) : s'.ejecuta q = if q = p then true else s.ejecuta q := by
    rw [hs, ejecuta_conFicha]
    rfl
  obtain ⟨hfases, hcpus⟩ := h.toFases.congr s' (by rw [hs]; rfl)
    (fun c hc => by rw [hejecuta, if_neg fun hpcb => hc (hlibre c hpcb)]) fun q hq => by
      rw [hs] at hq
      cases hq
  refine h.queda hfases (funext fun l => ?_) (fun q => ?_) ?_
  · cases l with
    | cpu c => exact hcpus c
    | mano =>
      rw [hs, puesto, puesto, enMano_eq_nil hcorto]
      rfl
    | _ => rw [hs]; rfl
  · rw [hs]
    exact vivo_conFicha (s := { s with corto := .esperandoListo }) hf _ q
  · rw [hs]
    exact le_rfl

theorem Ubicado.conCorto (h : s.Ubicado cfg) (hcorto : ∀ q, s.corto ≠ .asignando q)
    {corto : CortoPlazo} (hcorto' : ∀ q, corto ≠ .asignando q) (m : ℕ) :
    Ubicado { s with cantidad := m, corto := corto } cfg := by
  refine h.queda ⟨h.fase, fun q hq => absurd hq (hcorto' q), h.ocupada⟩ (funext fun l => ?_)
    (fun _ => Iff.rfl) le_rfl
  cases l with
  | mano => rw [puesto, puesto, enMano_eq_nil hcorto, enMano_eq_nil hcorto']
  | _ => rfl

end Traslados

section Turnos

variable {cfg : Config} {s s' s₀ : Tablero} {c p n : ℕ} {e : Etapa} {f f' : Ficha}

theorem cpu_conEtapa_self (s : Tablero) (c : ℕ) (e : Etapa) :
    (s.conEtapa c e).cpu c = { s.cpu c with etapa := e } := Function.update_self _ _ _

theorem cpu_conEtapa_ne (s : Tablero) (e : Etapa) {c' : ℕ} (hne : c' ≠ c) :
    (s.conEtapa c e).cpu c' = s.cpu c' := Function.update_of_ne hne _ _

theorem Ubicado.asignacion (h : s.Ubicado cfg) (hcorto : s.corto = .asignando p)
    (hc : c < cfg.gradoMultiprocesamiento) (hlibre : (s.cpu c).libre = true)
    (hs : s' = { s with corto := .esperandoListo }.conCpu c ⟨false, p, .asignada⟩) :
    s'.Ubicado cfg := by
  have hcpu : s'.cpu c = ⟨false, p, .asignada⟩ := by
    rw [hs]
    exact Function.update_self _ _ _
  have hcpu' (c' : ℕ) (hne : c' ≠ c) : s'.cpu c' = s.cpu c' := by
    rw [hs]
    exact Function.update_of_ne hne _ _
  have hejecuta (q : ℕ) : s'.ejecuta q = s.ejecuta q := by rw [hs]; rfl
  have hespera : (s.cpu c).etapa = .esperando := by
    by_contra hno
    rw [(h.ocupada c hno).1] at hlibre
    cases hlibre
  obtain ⟨hfases, hcpus⟩ := h.toFases.una s' hcpu' (fun c' _ _ => hejecuta _)
    (fun q hq => by rw [hs] at hq; cases hq)
    (fun _ => by rw [hcpu, hejecuta, (h.mano p hcorto).1]; rfl)
    (fun _ => by rw [hcpu]; exact ⟨rfl, hc⟩)
  have hperm : (s.puesto .mano).Perm ([] ++ [p]) := by
    rw [puesto, enMano, hcorto]
    exact .refl _
  refine h.traslada (b := .cpu c) hfases hperm (funext fun l => ?_) (fun q => ?_) ?_
  · have hvacia : s.puesto (.cpu c) = [] := by simp [puesto, corre, hespera]
    have hllena : s'.puesto (.cpu c) = [p] := by simp [puesto, corre, hcpu]
    cases l with
    | cpu c' =>
      by_cases hne : c' = c
      · subst hne
        rw [hllena]
        simp [move, append, hvacia]
      · rw [hcpus c' hne]
        simp [move, append, hne]
    | mano =>
      rw [hs]
      rfl
    | _ => rw [hs]; rfl
  · rw [hs]
    exact Iff.rfl
  · rw [hs]
    exact le_rfl

/-- What a CPU that serves something has is running, until it is about to be blocked. -/
theorem Ubicado.corre_of_etapa (h : s.Ubicado cfg) (hetapa : (s.cpu c).etapa = e)
    (he : e ≠ .esperando) (hciclo : e ≠ .ciclo) :
    s.corre c = true ∧ s.ejecuta (s.cpu c).pcbCarpincho = !e.bloqueando := by
  have hcorre : s.corre c = true :=
    corre_eq (fun hno => he (hetapa ▸ hno)) fun hno => absurd (hetapa ▸ hno) hciclo
  exact ⟨hcorre, hetapa ▸ h.fase c hcorre⟩

theorem Ubicado.atiende (h : s.Ubicado cfg) (hc : s.corre c = true)
    (hejecuta : s.ejecuta (s.cpu c).pcbCarpincho = true)
    (hf : s.ficha (s.cpu c).pcbCarpincho = some f) (he : e ≠ .esperando)
    (hf' : decide (f'.status = .exec) = !e.bloqueando)
    (hs : s' = (s.conFicha (s.cpu c).pcbCarpincho f').conEtapa c e) : s'.Ubicado cfg := by
  have hcpu : s'.cpu c = { s.cpu c with etapa := e } := by
    rw [hs]
    exact cpu_conEtapa_self _ c e
  have hcpu' (c' : ℕ) (hne : c' ≠ c) : s'.cpu c' = s.cpu c' := by
    rw [hs]
    exact cpu_conEtapa_ne _ e hne
  have hstatus (q : ℕ) : s'.ejecuta q =
      if q = (s.cpu c).pcbCarpincho then decide (f'.status = .exec) else s.ejecuta q := by
    rw [hs]
    exact ejecuta_conFicha s _ f' q
  have hocupa : (s.cpu c).etapa ≠ .esperando := by
    intro hno
    rw [corre, hno] at hc
    cases hc
  obtain ⟨hfases, hcpus⟩ := h.toFases.una s' hcpu'
    (fun c' hne hc' => by
      rw [hstatus, if_neg fun hpcb => hc' (h.unica hc hejecuta hne hpcb)])
    (fun q hq => by
      have hmano : s.corto = .asignando q := by rwa [hs] at hq
      have hne : q ≠ (s.cpu c).pcbCarpincho := by
        intro heq
        have hdos := h.reparto.disjoint .mano (.cpu c) q (mem_enMano.2 hmano)
          (mem_puesto_cpu.2 ⟨hc, heq⟩)
        cases hdos
      rw [hstatus, if_neg hne]
      exact h.mano q hmano)
    (fun _ => by rw [hcpu, hstatus, if_pos rfl, hf'])
    (fun _ => by rw [hcpu]; exact h.ocupada c hocupa)
  refine h.queda hfases (funext fun l => ?_) (fun q => ?_) ?_
  · cases l with
    | cpu c' =>
      by_cases hne : c' = c
      · subst hne
        have hcorre : s'.corre c' = true := by
          refine corre_eq (by rwa [hcpu]) fun hciclo => ?_
          have hciclo' : e = .ciclo := by rwa [hcpu] at hciclo
          rw [hcpu, hstatus, if_pos rfl, hf', hciclo']
          rfl
        rw [puesto, puesto, hc, hcorre, hcpu]
      · exact hcpus c' hne
    | _ => rw [hs]; rfl
  · rw [hs]
    exact vivo_conFicha hf f' q
  · rw [hs]
    exact le_rfl

theorem exists_ficha (h : s.ejecuta p = true) : ∃ f, s.ficha p = some f ∧ f.status = .exec := by
  obtain ⟨f, hf, hexec⟩ := (Option.any_eq_true _ _).1 h
  exact ⟨f, hf, of_decide_eq_true hexec⟩

theorem Ubicado.conEtapa (h : s.Ubicado cfg) (hc : s.corre c = true)
    (hejecuta : s.ejecuta (s.cpu c).pcbCarpincho = true) (he : e ≠ .esperando)
    (hb : e.bloqueando = false) : (s.conEtapa c e).Ubicado cfg := by
  obtain ⟨f, hf, hexec⟩ := exists_ficha hejecuta
  refine h.atiende hc hejecuta hf he ?_ (congrArg (Tablero.conEtapa · c e) (conFicha_self hf).symm)
  simp [hexec, hb]

theorem Ubicado.deja (h : s.Ubicado cfg) (b : Puesto) (hb : ∀ c, b ≠ .cpu c)
    (hs : s' = (s₀.conFicha (s.cpu c).pcbCarpincho f').conEtapa c .ciclo)
    (hc : s.corre c = true) (hf : s.ficha (s.cpu c).pcbCarpincho = some f)
    (hf' : f'.status ≠ .exec) (hficha : s₀.ficha = s.ficha) (hcpu₀ : s₀.cpu = s.cpu)
    (hcorto : s₀.corto = s.corto) (hproxima : s₀.proxima = s.proxima)
    (hpuesto : ∀ l, (∀ c, l ≠ .cpu c) →
      s₀.puesto l = append s.puesto b [(s.cpu c).pcbCarpincho] l) : s'.Ubicado cfg := by
  have hcpu : s'.cpu c = { s.cpu c with etapa := .ciclo } := by
    rw [hs, cpu_conEtapa_self, ← hcpu₀]
    rfl
  have hcpu' (c' : ℕ) (hne : c' ≠ c) : s'.cpu c' = s.cpu c' := by
    rw [hs, cpu_conEtapa_ne _ _ hne, ← hcpu₀]
    rfl
  have hstatus (q : ℕ) : s'.ejecuta q =
      if q = (s.cpu c).pcbCarpincho then false else s.ejecuta q := by
    have hmismo : s₀.ejecuta q = s.ejecuta q := by rw [ejecuta, ejecuta, hficha]
    rw [hs, ← hmismo, ← decide_eq_false hf']
    exact ejecuta_conFicha s₀ _ f' q
  have hocupa : (s.cpu c).etapa ≠ .esperando := by
    intro hno
    rw [corre, hno] at hc
    cases hc
  have hvacia : s'.corre c = false := by
    rw [corre, hcpu]
    dsimp only
    rw [hstatus, if_pos rfl]
  obtain ⟨hfases, hcpus⟩ := h.toFases.una s' hcpu'
    (fun c' hne hc' => by
      rw [hstatus]
      split
      · next hpcb =>
        -- Another CPU with the carpincho is late, and has not found it running.
        cases hejecuta : s.ejecuta (s.cpu c).pcbCarpincho with
        | false => rw [hpcb, hejecuta]
        | true => exact absurd (h.unica hc hejecuta hne hpcb) hc'
      · rfl)
    (fun q hq => by
      have hmano : s.corto = .asignando q := by
        rw [hs] at hq
        exact hcorto ▸ hq
      have hne : q ≠ (s.cpu c).pcbCarpincho := by
        intro heq
        have hdos := h.reparto.disjoint .mano (.cpu c) q (mem_enMano.2 hmano)
          (mem_puesto_cpu.2 ⟨hc, heq⟩)
        cases hdos
      rw [hstatus, if_neg hne]
      exact h.mano q hmano)
    (fun hsi => by rw [hvacia] at hsi; cases hsi)
    (fun _ => by rw [hcpu]; exact h.ocupada c hocupa)
  have hllena : s.puesto (.cpu c) = [(s.cpu c).pcbCarpincho] := by rw [puesto, if_pos hc]
  have hperm : (s.puesto (.cpu c)).Perm ([] ++ [(s.cpu c).pcbCarpincho]) := by
    rw [hllena]
    exact .refl _
  refine h.traslada (b := b) hfases hperm (funext fun l => ?_) (fun q => ?_) ?_
  · by_cases hl : ∃ c', l = .cpu c'
    · obtain ⟨c', rfl⟩ := hl
      rw [move, append, Function.update_of_ne (hb c').symm]
      by_cases hne : c' = c
      · subst hne
        rw [Function.update_self, puesto, hvacia]
        rfl
      · rw [Function.update_of_ne fun hno => hne (Puesto.cpu.inj hno), hcpus c' hne]
    · have hcola : s'.puesto l = s₀.puesto l := by
        rw [hs]
        cases l with
        | cpu c' => exact absurd ⟨c', rfl⟩ hl
        | _ => rfl
      have hl' (c' : ℕ) : l ≠ .cpu c' := fun hno => hl ⟨c', hno⟩
      rw [hcola, hpuesto l hl', move, ← update_append (hb c), Function.update_of_ne (hl' c)]
  · have hvivo : s'.Vivo q ↔ s₀.Vivo q := by
      rw [hs]
      exact vivo_conFicha (hficha ▸ hf) f' q
    rw [hvivo, Vivo, hficha]
    exact Iff.rfl
  · rw [hs]
    exact hproxima.ge

theorem Ubicado.suelta (h : s.Ubicado cfg) (hc : (s.cpu c).etapa = .ciclo)
    (hejecuta : s.ejecuta (s.cpu c).pcbCarpincho = false) :
    (s.conCpu c ⟨true, (s.cpu c).pcbCarpincho, .esperando⟩).Ubicado cfg := by
  have hcpu : (s.conCpu c ⟨true, (s.cpu c).pcbCarpincho, .esperando⟩).cpu c =
      ⟨true, (s.cpu c).pcbCarpincho, .esperando⟩ := Function.update_self _ _ _
  have hvacia : (s.conCpu c ⟨true, (s.cpu c).pcbCarpincho, .esperando⟩).corre c = false := by
    rw [corre, hcpu]
  obtain ⟨hfases, hcpus⟩ := h.toFases.una (c := c)
    (s.conCpu c ⟨true, (s.cpu c).pcbCarpincho, .esperando⟩)
    (fun c' hne => Function.update_of_ne hne _ _) (fun _ _ _ => rfl) h.mano
    (fun hsi => by rw [hvacia] at hsi; cases hsi) (fun hno => by rw [hcpu] at hno; cases hno rfl)
  refine h.queda hfases (funext fun l => ?_) (fun _ => Iff.rfl) le_rfl
  cases l with
  | cpu c' =>
    by_cases hne : c' = c
    · subst hne
      rw [puesto, puesto, hvacia, corre, hc]
      dsimp only
      rw [hejecuta]
      rfl
    · exact hcpus c' hne
  | _ => rfl

end Turnos

section Colas

variable {cfg : Config} {s s' : Tablero} {p : ℕ} {f : Ficha} {resto elegidos ps : List ℕ}
  {a : Puesto}

/-- The one that is unblocked was in BLOCKED, since nobody is taken out of the suspended ones. -/
theorem Ubicado.despierta (h : s.Ubicado cfg) (hd : s.Despierta s')
    (hsuspendidos : s'.suspendidos.length = s.suspendidos.length) : s'.Ubicado cfg := by
  cases hd with
  | nadie => exact h
  | suspendido i hi =>
    rw [List.length_eraseIdx_of_lt hi] at hsuspendidos
    omega
  | bloqueado j p f hj hf =>
    have hp : p ∈ s.puesto .bloqueados := List.mem_of_getElem? hj
    have hperm : (s.puesto .bloqueados).Perm (s.bloqueados.eraseIdx j ++ [p]) :=
      perm_eraseIdx_append hj
    have hstatus (q : ℕ) := ejecuta_conFicha { s with
      bloqueados := s.bloqueados.eraseIdx j
      listos := s.listos ++ [p]
      cantidad := s.cantidad + 1 } p { f with status := .ready } q
    obtain ⟨hfases, hcpus⟩ := h.toFases.congr ({ s with
        bloqueados := s.bloqueados.eraseIdx j
        listos := s.listos ++ [p]
        cantidad := s.cantidad + 1 }.conFicha p { f with status := .ready }) rfl
      (fun c hc => by
        rw [hstatus]
        split
        · next hpcb => rw [hpcb, h.tardia hp (by simp) hpcb hc]; rfl
        · rfl)
      (fun q hq => by
        have hne : q ≠ p := by
          rintro rfl
          cases h.reparto.disjoint .mano .bloqueados q (mem_enMano.2 hq) hp
        rw [hstatus, if_neg hne]
        exact h.mano q hq)
    refine h.traslada (b := .listos) hfases hperm (funext fun l => ?_) (fun q => ?_) le_rfl
    · cases l with
      | cpu c => exact hcpus c
      | _ => rfl
    · exact vivo_conFicha (s := { s with
        bloqueados := s.bloqueados.eraseIdx j
        listos := s.listos ++ [p]
        cantidad := s.cantidad + 1 }) hf _ q

theorem Ubicado.baja (h : s.Ubicado cfg) (ha : ∀ c, a ≠ .cpu c) (hmano : a ≠ .mano)
    (hperm : (s.puesto a).Perm (resto ++ elegidos))
    (hficha : s'.ficha = fun q => if q ∈ elegidos then none else s.ficha q)
    (hcpu : s'.cpu = s.cpu) (hcorto : s'.corto = s.corto) (hproxima : s'.proxima = s.proxima)
    (hpuesto : ∀ l, (∀ c, l ≠ .cpu c) → s'.puesto l = Function.update s.puesto a resto l) :
    s'.Ubicado cfg := by
  have hdentro (q : ℕ) (hq : q ∈ elegidos) : q ∈ s.puesto a :=
    hperm.mem_iff.2 (List.mem_append_right _ hq)
  have hstatus (q : ℕ) : s'.ejecuta q = if q ∈ elegidos then false else s.ejecuta q := by
    rw [ejecuta, hficha]
    dsimp only
    split <;> rfl
  obtain ⟨hfases, hcpus⟩ := h.toFases.congr s' hcpu
    (fun c hc => by
      rw [hstatus]
      split
      · next hpcb => exact (h.tardia (hdentro _ hpcb) ha rfl hc).symm
      · rfl)
    (fun q hq => by
      have hq' : s.corto = .asignando q := hcorto ▸ hq
      have hne : q ∉ elegidos := fun hno =>
        hmano (h.reparto.disjoint a .mano q (hdentro q hno) (mem_enMano.2 hq'))
      rw [hstatus, if_neg hne]
      exact h.mano q hq')
  refine h.libera hfases hperm (funext fun l => ?_) (fun q => ?_) hproxima
  · by_cases hl : ∃ c, l = .cpu c
    · obtain ⟨c, rfl⟩ := hl
      rw [hcpus, Function.update_of_ne (ha c).symm]
    · exact hpuesto l fun c hc => hl ⟨c, hc⟩
  · rw [Vivo, Vivo, hficha]
    by_cases hq : q ∈ elegidos <;> simp [hq]

end Colas

end Tablero

namespace Estado

section Corridas

variable {cfg : Config} {k k' : Estado} {m : Turno} {ps : List ℕ} {s : Tablero} {o : List Suceso}

def soltado (cfg : Config) (k : Estado) (p : ℕ) : Bool :=
  (List.range cfg.gradoMultiprocesamiento).all fun c =>
    (k.cpusExec c).pcbCarpincho ≠ p || (k.cpusExec c).etapa = .esperando

/-- The planner loses nobody, and does not choose a carpincho that a CPU has not let go of. -/
def relevoSeguro (cfg : Config) (k : Estado) : Turno → Bool
  | .sinCpu => false
  | .hilo (.cortoPlazo i) =>
    k.cortoPlazo ≠ .esperandoPlanificar || (k.processReady[i]?).all (k.soltado cfg)
  | _ => true

theorem soltado_esperando {p c : ℕ} (hk : k.tablero.Ubicado cfg) (h : k.soltado cfg p = true)
    (hpcb : (k.cpusExec c).pcbCarpincho = p) : (k.cpusExec c).etapa = .esperando := by
  by_contra hno
  have hc := List.all_eq_true.1 h c (List.mem_range.2 (hk.ocupada c hno).2)
  simp [hpcb, hno] at hc

theorem jugada_ubicado (h : Jugada cfg k m ps s) (hk : k.tablero.Ubicado cfg)
    (hm : k.relevoSeguro cfg m = true)
    (hsuspendidos : m ≠ .hilo .medianoPlazo →
      s.suspendidos.length = k.processSuspendedBlocked.length) : s.Ubicado cfg := by
  cases h with
  | quieta hm => exact hk
  | llegada pid => exact hk.llegada rfl
  | admision p n ps hlugares hnuevos =>
    have hperm : (k.tablero.puesto .nuevos).Perm (ps ++ [p]) := by
      change k.processNew.Perm (ps ++ [p])
      rw [hnuevos]
      exact (List.perm_append_singleton p ps).symm
    refine hk.mueve (a := .nuevos) (b := .listos) rfl rfl rfl rfl hperm (fun l hl => ?_)
      (by simp) (by simp)
    cases l with
    | cpu c => exact absurd rfl (hl c)
    | _ => rfl
  | espera i n hcorto hcantidad =>
    exact hk.conCorto (by simp [tablero, hcorto]) (by simp) n
  | eleccion i p f halg hcorto hcero hp hf =>
    have hsoltado : k.soltado cfg p = true := by simpa [relevoSeguro, hcorto, hp] using hm
    exact hk.eleccion halg hcorto hp hf (fun c => soltado_esperando hk hsoltado) rfl
  | salto i halg hcorto hcero =>
    exact hk.conCorto (by simp [tablero, hcorto]) (by simp) k.tablero.cantidad
  | asignacion i p c halg hcorto hc hlibre => exact hk.asignacion hcorto hc hlibre rfl
  | perdida p hcorto => cases hm
  | ratio i p f halg hcorto hp hf =>
    have hnadie (q : ℕ) : k.tablero.corto ≠ .asignando q := by
      intro hq
      have hsjf := (hk.mano q hq).2
      rw [halg] at hsjf
      cases hsjf
    have hespera : k.cortoPlazo = .esperandoPlanificar := by
      cases hetapa : k.cortoPlazo with
      | esperandoListo => exact absurd hetapa hcorto
      | esperandoPlanificar => rfl
      | asignando q => exact absurd hetapa (hnadie q)
    have hsoltado : k.soltado cfg p = true := by simpa [relevoSeguro, hespera, hp] using hm
    exact hk.ratio hnadie hf (fun c => soltado_esperando hk hsoltado) rfl
  | suspension p hready hblocked hnew hp =>
    refine hk.mueve (a := .bloqueados) (b := .suspendidos) rfl rfl rfl rfl
      (perm_eraseIdx_append hp) (fun l hl => ?_) (by simp) (by simp)
    cases l with
    | cpu c => exact absurd rfl (hl c)
    | _ => rfl
  | finIo h => exact hk.despierta h (hsuspendidos (by simp))
  | liberacion p ps f hsalida hf =>
    have hperm : (k.tablero.puesto .salida).Perm (ps ++ [p]) := by
      change k.processExit.Perm (ps ++ [p])
      rw [hsalida]
      exact (List.perm_append_singleton p ps).symm
    refine hk.baja (a := .salida) (by simp) (by simp) hperm (funext fun q => ?_) rfl rfl rfl
      fun l hl => ?_
    · simp only [List.mem_singleton]
      exact Function.update_apply _ _ _ _
    · cases l with
      | cpu c => exact absurd rfl (hl c)
      | _ => rfl
  | reposicion pid elegidos resto hel hpid hperm =>
    refine hk.mueve (a := .bloqueados) (b := .listos) rfl rfl rfl rfl hperm (fun l hl => ?_)
      (by simp) (by simp)
    cases l with
    | cpu c => exact absurd rfl (hl c)
    | _ => rfl
  | terminacion pid elegidos resto hpid hperm =>
    refine hk.baja (a := .bloqueados) (by simp) (by simp) hperm rfl rfl rfl rfl fun l hl => ?_
    cases l with
    | cpu c => exact absurd rfl (hl c)
    | _ => rfl
  | comienzo c hetapa =>
    obtain ⟨hcorre, hejecuta⟩ := hk.corre_of_etapa hetapa (by simp) (by simp)
    exact hk.conEtapa hcorre hejecuta (by simp) rfl
  | escucha c f hetapa hf hexec hio =>
    have hejecuta : k.tablero.ejecuta (k.cpusExec c).pcbCarpincho = true :=
      (Tablero.ejecuta_eq hf).trans (decide_eq_true hexec)
    have hcorre : k.tablero.corre c = true :=
      Tablero.corre_eq (by rw [show (k.tablero.cpu c).etapa = .ciclo from hetapa]; simp)
        fun _ => hejecuta
    exact hk.conEtapa hcorre hejecuta (by simp) rfl
  | hallaIo c f hetapa hf hexec hio =>
    have hejecuta : k.tablero.ejecuta (k.cpusExec c).pcbCarpincho = true :=
      (Tablero.ejecuta_eq hf).trans (decide_eq_true hexec)
    have hcorre : k.tablero.corre c = true :=
      Tablero.corre_eq (by rw [show (k.tablero.cpu c).etapa = .ciclo from hetapa]; simp)
        fun _ => hejecuta
    exact hk.conEtapa hcorre hejecuta (by simp) rfl
  | respuestaIo c hetapa =>
    obtain ⟨hcorre, hejecuta⟩ := hk.corre_of_etapa hetapa (by simp) (by simp)
    exact hk.conEtapa hcorre hejecuta (by simp) rfl
  | limpiezaIo c f hetapa hf =>
    obtain ⟨hcorre, hejecuta⟩ := hk.corre_of_etapa hetapa (by simp) (by simp)
    have hexec : decide (f.status = .exec) = true := (Tablero.ejecuta_eq hf).symm.trans hejecuta
    exact hk.atiende hcorre hejecuta hf (by simp) hexec rfl
  | suelta c f hetapa hf hexec =>
    have hejecuta : k.tablero.ejecuta (k.cpusExec c).pcbCarpincho = false :=
      (Tablero.ejecuta_eq hf).trans (decide_eq_false hexec)
    exact hk.suelta hetapa hejecuta
  | bloqueoIo c f hetapa hf =>
    obtain ⟨hcorre, hejecuta⟩ := hk.corre_of_etapa hetapa (by simp) (by simp)
    have hstatus : f.status ≠ .exec :=
      of_decide_eq_false ((Tablero.ejecuta_eq hf).symm.trans hejecuta)
    refine hk.deja .bloqueados (by simp) rfl hcorre hf hstatus rfl rfl rfl rfl fun l hl => ?_
    cases l with
    | cpu c => exact absurd rfl (hl c)
    | _ => rfl
  | bloqueoWait c hetapa =>
    obtain ⟨hcorre, hejecuta⟩ := hk.corre_of_etapa hetapa (by simp) (by simp)
    obtain ⟨f, hf⟩ := Option.isSome_iff_exists.1
      (hk.reparto.live_of_mem (Tablero.mem_puesto_cpu.2 ⟨hcorre, rfl⟩))
    have hstatus : f.status ≠ .exec :=
      of_decide_eq_false ((Tablero.ejecuta_eq hf).symm.trans hejecuta)
    have hs := Tablero.conFicha_self (s := { k.tablero with
      bloqueados := k.processBlocked ++ [(k.cpusExec c).pcbCarpincho] }) hf
    have hs' := congrArg (Tablero.conEtapa · c .ciclo) hs.symm
    refine hk.deja .bloqueados (by simp) hs' hcorre hf hstatus rfl rfl rfl rfl fun l hl => ?_
    cases l with
    | cpu c => exact absurd rfl (hl c)
    | _ => rfl
  | fin c n hetapa hn h =>
    next s₁ =>
    have hs₁ : s₁.Ubicado cfg := hk.despierta h (hsuspendidos (by simp))
    have hs₂ : Tablero.Ubicado { s₁ with proxima := n } cfg := by
      refine hs₁.queda ⟨hs₁.fase, hs₁.mano, hs₁.ocupada⟩ (funext fun l => ?_)
        (fun _ => Iff.rfl) (h.proxima_eq ▸ hn)
      cases l <;> rfl
    have hetapa' : (s₁.cpu c).etapa.atendiendo = true := by rwa [h.cpu_eq]
    obtain ⟨hno, hbloquea⟩ := atendiendo_sin_bloquear hetapa'
    have hciclo : (s₁.cpu c).etapa ≠ .ciclo := by
      intro hciclo
      rw [hciclo] at hetapa'
      cases hetapa'
    obtain ⟨hcorre, hejecuta⟩ := hs₂.corre_of_etapa (c := c) rfl hno hciclo
    exact hs₂.conEtapa hcorre (by rw [hejecuta]; exact congrArg _ hbloquea) (by simp) rfl
  | memoria c hetapa =>
    obtain ⟨hcorre, hejecuta⟩ := hk.corre_of_etapa hetapa (by simp) (by simp)
    exact hk.conEtapa hcorre hejecuta (by simp) rfl
  | pedidoIo c nombre f hetapa hf =>
    obtain ⟨hcorre, hejecuta⟩ := hk.corre_of_etapa hetapa (by simp) (by simp)
    exact hk.atiende hcorre hejecuta hf (by simp) rfl rfl
  | pedidoWait c sema f hetapa hf hop =>
    obtain ⟨hcorre, hejecuta⟩ := hk.corre_of_etapa hetapa (by simp) (by simp)
    exact hk.atiende hcorre hejecuta hf (by simp) rfl rfl
  | pedidoSemaforo c sema etapa hetapa hatiende =>
    obtain ⟨hcorre, hejecuta⟩ := hk.corre_of_etapa hetapa (by simp) (by simp)
    obtain ⟨hno, hbloquea⟩ := atendiendo_sin_bloquear hatiende
    exact hk.conEtapa hcorre hejecuta hno hbloquea
  | respuestaSemaforo c sema hetapa =>
    obtain ⟨hcorre, hejecuta⟩ := hk.corre_of_etapa hetapa (by simp) (by simp)
    exact hk.conEtapa hcorre hejecuta (by simp) rfl
  | finalizacion c f hetapa hf =>
    obtain ⟨hcorre, hejecuta⟩ := hk.corre_of_etapa hetapa (by simp) (by simp)
    refine hk.deja .salida (by simp) rfl hcorre hf (by simp) rfl rfl rfl rfl fun l hl => ?_
    cases l with
    | cpu c => exact absurd rfl (hl c)
    | _ => rfl

theorem Rumbo.suspendidos_eq (h : Rumbo k m k') (hk : k.Cerrado)
    (hm : m ≠ .hilo .medianoPlazo) : k'.processSuspendedBlocked = k.processSuspendedBlocked := by
  cases h with
  | aparte hm h => exact h.suspendidos
  | reasignacion c d nombre hetapa hnombre h => exact h.suspendidos
  | suspension p n hlibre hp => exact absurd rfl hm
  | fin pid hrafaga h =>
    exact (desbloquearPID_aparte (k := { k with rafagaIO := none }) hk h).suspendidos
  | _ => rfl

/-- Every carpincho has one place, and nobody is taken out of the suspended ones. -/
structure Colocado (cfg : Config) (k : Estado) : Prop where
  ubicado : k.tablero.Ubicado cfg
  suspende : k.Suspende

theorem pasoTurno_colocado (hk : k.Colocado cfg) (hm : k.relevoSeguro cfg m = true)
    (h : pasoTurno cfg m k = .ok (o, k')) : k'.Colocado cfg := by
  refine ⟨?_, (pasoTurno_suspende hk.suspende h).1⟩
  refine jugada_ubicado (pasoTurno_jugada h) hk.ubicado hm fun hno => ?_
  have hcerrado := hk.suspende.cerrado
  exact congrArg List.length ((pasoTurno_rumbo hcerrado h).suspendidos_eq hcerrado hno)

theorem inicial_colocado (cfg : Config) : (inicial cfg).Colocado cfg := by
  refine ⟨⟨⟨fun c hc => ?_, fun p hp => ?_, fun c hc => absurd rfl hc⟩, ?_, fun p hp => ?_⟩,
    inicial_suspende cfg⟩
  · cases hc
  · cases hp
  · have hnadie (l : Puesto) : (inicial cfg).tablero.puesto l = [] := by cases l <;> rfl
    refine ⟨fun l => ?_, fun l l' p hp => ?_, fun p => ?_⟩
    · rw [hnadie]
      exact List.nodup_nil
    · rw [hnadie] at hp
      cases hp
    · simp only [hnadie, List.not_mem_nil, exists_false, iff_false]
      exact fun hno => by cases hno
  · cases hp

/-- In every order of the steps of the threads, every carpincho that has not been
freed is in one place, once: a queue, the hands of the planner, or one CPU. The planner must not
lose the carpincho that it has chosen, nor choose one that a CPU has not let go of. -/
theorem un_lugar_cada_uno (cfg : Config) {ms : List Turno} {k : Estado}
    (h : Reaches (pasoTurno cfg) (fun k m => k.relevoSeguro cfg m = true) (inicial cfg) ms k) :
    Partitions k.Vivo k.tablero.puesto := by
  have hcolocado : k.Colocado cfg :=
    h.invariant (fun _ _ _ _ hk hm hpaso => pasoTurno_colocado hk hm hpaso) (inicial_colocado cfg)
  refine hcolocado.ubicado.reparto.congr fun p => ?_
  rw [Vivo, Tablero.Vivo, tablero, Option.isSome_map]

/-- The first carpincho is in BLOCKED, and a CPU is about to block the second one. -/
theorem un_lugar_cada_uno_dos :
    ∃ k, Reaches (pasoTurno configUnaCpu) (fun k m => k.relevoSeguro configUnaCpu m = true)
        (inicial configUnaCpu) dosPedidosIo.dropLast k ∧
      0 ∈ k.processBlocked ∧ (∀ l, 0 ∈ k.tablero.puesto l → l = .bloqueados) ∧
      k.tablero.puesto (.cpu 0) = [1] := by
  have hcorrida : (guardedRun (pasoTurno configUnaCpu) (relevoSeguro configUnaCpu)
      dosPedidosIo.dropLast (inicial configUnaCpu)).any (fun k => 0 ∈ k.processBlocked ∧
        k.tablero.puesto (.cpu 0) = [1]) = true := by
    decide +kernel
  obtain ⟨k, hk, hfin⟩ := (Option.any_eq_true _ _).1 hcorrida
  obtain ⟨hbloqueado, hcpu⟩ := of_decide_eq_true hfin
  have hreaches := reaches_of_guardedRun hk
  refine ⟨k, hreaches, hbloqueado, fun l hl => ?_, hcpu⟩
  exact (un_lugar_cada_uno configUnaCpu hreaches).disjoint l .bloqueados 0 hl hbloqueado

end Corridas

section Hrrn

variable {cfg : Config} {k k' : Estado} {m : Turno} {ps : List ℕ} {s : Tablero} {o : List Suceso}

/-- Nobody has ever had a CPU. -/
structure Quieto (cfg : Config) (s : Tablero) : Prop where
  cpus : ∀ c, s.cpu c = ⟨true, 0, .esperando⟩
  corto : ∀ p, s.corto ≠ .asignando p
  colas : s.bloqueados = [] ∧ s.suspendidos = [] ∧ s.salida = []
  orden : s.listos ++ s.nuevos = List.range s.proxima
  lugares : s.lugares + s.listos.length = cfg.gradoMultiprogramacion

theorem jugada_quieta (h : Jugada cfg k m ps s) (hhrrn : cfg.algoritmoPlanificacion = .hrrn)
    (hk : Quieto cfg k.tablero) : Quieto cfg s := by
  obtain ⟨hcpus, hcorto, hcolas, horden, hlugares⟩ := hk
  have hespera (c : ℕ) : (k.cpusExec c).etapa = .esperando := congrArg Cpu.etapa (hcpus c)
  cases h with
  | quieta hm => exact ⟨hcpus, hcorto, hcolas, horden, hlugares⟩
  | llegada pid =>
    refine ⟨hcpus, hcorto, hcolas, ?_, hlugares⟩
    change k.processReady ++ (k.processNew ++ [k.proxima]) = List.range (k.proxima + 1)
    rw [← List.append_assoc, List.range_succ]
    exact congrArg (· ++ [k.proxima]) horden
  | admision p n ps hlug hnuevos =>
    refine ⟨hcpus, hcorto, hcolas, ?_, ?_⟩
    · change k.processReady ++ [p] ++ ps = List.range k.proxima
      rw [List.append_assoc, List.singleton_append, ← hnuevos]
      exact horden
    · change n + (k.processReady ++ [p]).length = _
      have hcuenta : n + 1 + k.processReady.length = cfg.gradoMultiprogramacion := hlug ▸ hlugares
      rw [List.length_append, List.length_singleton]
      omega
  | espera i n hcorto' hcantidad =>
    exact ⟨hcpus, fun p hno => (by cases hno), hcolas, horden, hlugares⟩
  | eleccion i p f halg hcorto' hcero hp hf =>
    rw [hhrrn] at halg
    cases halg
  | salto i halg hcorto' hcero =>
    rw [hhrrn] at halg
    cases halg
  | asignacion i p c halg hcorto' hc hlibre =>
    rw [hhrrn] at halg
    cases halg
  | perdida p hcorto' => exact absurd hcorto' (hcorto p)
  | ratio i p f halg hcorto' hp hf =>
    exact ⟨hcpus, fun p hno => (by cases hno), hcolas, horden, hlugares⟩
  | suspension p hready hblocked hnew hp => exact absurd hcolas.1 hblocked
  | finIo h =>
    cases h with
    | nadie => exact ⟨hcpus, hcorto, hcolas, horden, hlugares⟩
    | bloqueado j p f hj hf =>
      rw [hcolas.1] at hj
      cases hj
    | suspendido i hi =>
      rw [hcolas.2.1] at hi
      cases hi
  | liberacion p ps f hsalida hf =>
    have hno : p :: ps = [] := hsalida.symm.trans hcolas.2.2
    cases hno
  | reposicion pid elegidos resto hel hpid hperm =>
    have hno : k.processBlocked = [] := hcolas.1
    rw [hno] at hpid
    cases hpid
  | terminacion pid elegidos resto hpid hperm =>
    have hno : k.processBlocked = [] := hcolas.1
    rw [hno] at hpid
    cases hpid
  | _ => simp_all [Etapa.atendiendo]

theorem inicial_quieta (cfg : Config) : Quieto cfg (inicial cfg).tablero :=
  ⟨fun _ => rfl, fun _ hno => (by cases hno), ⟨rfl, rfl, rfl⟩, rfl, rfl⟩

/-- Where nobody has had a CPU, the greeting of those who come is all that can be seen. -/
theorem Quieto.mudo (hk : Quieto cfg k.tablero) (h : pasoTurno cfg m k = .ok (o, k')) :
    o = [] ∨ ∃ pid, m = .hilo (.llegada pid) ∧ o = [.iniciado k.proxima] := by
  have hespera (c : ℕ) : (k.cpusExec c).etapa = .esperando := congrArg Cpu.etapa (hk.cpus c)
  have hsalida : k.processExit = [] := hk.colas.2.2
  cases m with
  | hilo e =>
    cases e with
    | llegada pid =>
      cases h
      exact Or.inr ⟨pid, rfl, rfl⟩
    | finalizarProceso =>
      obtain ⟨n, -, h⟩ := bind_eq_ok.1 h
      rw [hsalida] at h
      cases h
      exact Or.inl rfl
    | cpu c =>
      change k.pasoCpu c = _ at h
      rw [pasoCpu, hespera] at h
      cases h
    | recibe c pedido =>
      change (if _ then _ else _) = _ at h
      rw [hespera, if_neg (by simp)] at h
      cases h
    | _ =>
      obtain ⟨k₁, -, h⟩ := bind_eq_ok.1 h
      cases h
      exact Or.inl rfl
  | _ =>
    obtain ⟨k₁, -, h⟩ := bind_eq_ok.1 h
    cases h
    exact Or.inl rfl

/-- Under HRRN nobody is ever run. In every run the CPUs are as at the start, READY followed by
NEW are the carpinchos that have come, in order, no more than the degree of them in READY, and no
step answers a carpincho, asks the memory for anything or tells it of an end, but for the 0 that
`main` sends to each one that comes. -/
theorem hrrn_nadie_corre (cfg : Config) (hhrrn : cfg.algoritmoPlanificacion = .hrrn)
    {ms : List Turno} {k : Estado}
    (h : Reaches (pasoTurno cfg) (fun _ _ => True) (inicial cfg) ms k) :
    (∀ c, k.cpusExec c = (inicial cfg).cpusExec c) ∧
      k.processReady ++ k.processNew = List.range k.proxima ∧
      k.processReady.length ≤ cfg.gradoMultiprogramacion ∧
      ∀ m o k', pasoTurno cfg m k = .ok (o, k') →
        o = [] ∨ ∃ pid, m = .hilo (.llegada pid) ∧ o = [.iniciado k.proxima] := by
  have hquieto : Quieto cfg k.tablero :=
    h.invariant (fun _ _ _ _ hk _ hpaso => jugada_quieta (pasoTurno_jugada hpaso) hhrrn hk)
      (inicial_quieta cfg)
  have hlugares : k.puedeEntrarAlSistema + k.processReady.length = cfg.gradoMultiprogramacion :=
    hquieto.lugares
  exact ⟨hquieto.cpus, hquieto.orden, by omega, fun m o k' hpaso => hquieto.mudo hpaso⟩

def configHrrn : Config where
  gradoMultiprogramacion := 1
  gradoMultiprocesamiento := 2
  algoritmoPlanificacion := .hrrn

/-- Two carpinchos come, and the first one is chosen. -/
theorem hrrn_nadie_corre_dos :
    ∃ k, Reaches (pasoTurno configHrrn) (fun _ _ => True) (inicial configHrrn)
        (hilos [.llegada 1, .llegada 2, .largoPlazo, .largoPlazo, .cortoPlazo 0,
          .cortoPlazo 0]) k ∧
      (k.pcbs 0).map Pcb.status = some .exec ∧ k.processReady ++ k.processNew = [0, 1] ∧
      k.cpusExec 0 = ⟨true, 0, .esperando⟩ := by
  have hcorrida : (guardedRun (pasoTurno configHrrn) (fun _ _ => true)
      (hilos [.llegada 1, .llegada 2, .largoPlazo, .largoPlazo, .cortoPlazo 0, .cortoPlazo 0])
      (inicial configHrrn)).any (fun k => (k.pcbs 0).map Pcb.status = some .exec ∧
        k.proxima = 2) = true := by
    decide +kernel
  obtain ⟨k, hk, hfin⟩ := (Option.any_eq_true _ _).1 hcorrida
  obtain ⟨hstatus, hproxima⟩ := of_decide_eq_true hfin
  have hreaches := (reaches_of_guardedRun hk).mono fun _ _ _ => trivial
  obtain ⟨hcpus, horden, -⟩ := hrrn_nadie_corre configHrrn rfl hreaches
  rw [hproxima] at horden
  exact ⟨k, hreaches, hstatus, horden, hcpus 0⟩

end Hrrn

end Estado

end Carpinchos.Kernel
