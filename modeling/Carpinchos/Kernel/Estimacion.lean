import Mathlib.Data.Rat.Floor
import Mathlib.Tactic
import Carpinchos.Library.Selection
import Carpinchos.Kernel.Semaforos

/-!
# Estimates and response ratios

The short term planner goes by numbers that are kept in the control blocks. Under SJF it takes
the ready carpincho with the least estimate; the estimate is an average of the bursts that is
updated when a carpincho blocks, when it is unblocked and when the planner looks at it. Under
HRRN it takes the one with the greatest response ratio. Times and estimates are rationals here.
-/

namespace Carpinchos.Kernel

open Outcome Selection

/-- What the short term planner reads of a control block. -/
structure Medida where
  pid : ℤ
  proximaEstimacion : ℚ
  previaEstimacion : ℚ
  rafagaRealCPU : ℚ
  timestampReadyIn : ℤ
  deriving DecidableEq, Repr

/-- The conversion to `int` drops the fractional part. -/
def truncar (x : ℚ) : ℤ := if 0 ≤ x then ⌊x⌋ else ⌈x⌉

namespace Medida

section Estimacion

variable (alfa : ℚ)

/-- `create_pcb` leaves `proximaEstimacion` as it is. -/
def createPcb (estimacionInicial : ℚ) (basura : Medida) : Medida :=
  { basura with previaEstimacion := estimacionInicial, rafagaRealCPU := 0 }

/-- `calcularEstimacion`. The conversion applies to `alfa` alone. -/
def calcularEstimacion (pcb : Medida) : Medida :=
  { pcb with proximaEstimacion :=
      truncar alfa * pcb.rafagaRealCPU + (1 - alfa) * pcb.previaEstimacion }

/-- What a WAIT without units and a request for IO note when the carpincho blocks. -/
def bloquear (rafaga : ℚ) (pcb : Medida) : Medida :=
  { pcb with previaEstimacion := pcb.proximaEstimacion, rafagaRealCPU := rafaga }

/-- The loop of `elDeMenorSJF` calculates the estimate of a carpincho without a burst. -/
def revisar (pcb : Medida) : Medida :=
  if pcb.rafagaRealCPU = 0 then pcb.calcularEstimacion alfa else pcb

/-- The loop of `elDeMenorSJF`, from position `i` on. -/
def recorrerListos : List Medida → ℕ → ℚ → ℕ → List Medida × ℕ
  | [], _, _, minID => ([], minID)
  | pcb :: ready, i, minSJF, minID =>
    let pcb := pcb.revisar alfa
    let (ready, minID) :=
      if pcb.proximaEstimacion < minSJF then recorrerListos ready (i + 1) pcb.proximaEstimacion i
      else recorrerListos ready (i + 1) minSJF minID
    (pcb :: ready, minID)

def elDeMenorSJF (ready : List Medida) : Except Falla (Medida × List Medida) := do
  let (ready, minID) := recorrerListos alfa ready 0 9999999 0
  let pcbElegido ← listGet ready minID
  .ok (pcbElegido, ready.eraseIdx minID)

end Estimacion

section Respuesta

variable (ahora : ℤ)

/-- `calculoRR`. A division by zero has no value that fits an `int`. -/
def calculoRR (unCarpincho : Medida) : Except Falla ℤ := do
  let tiempoReady ← entero (ahora - unCarpincho.timestampReadyIn)
  if unCarpincho.previaEstimacion = 0 then .error .desbordamiento
  else entero (truncar (1 + tiempoReady / unCarpincho.previaEstimacion))

/-- The loop of `elMayorRR`. -/
def recorrerRR : List Medida → Medida → Except Falla Medida
  | [], carpinchoElegido => .ok carpinchoElegido
  | carpinchoPosible :: ready, carpinchoElegido => do
    let posible ← carpinchoPosible.calculoRR ahora
    let elegido ← carpinchoElegido.calculoRR ahora
    recorrerRR ready (if elegido < posible then carpinchoPosible else carpinchoElegido)

/-- `elMayorRR`, which gives NULL when there is nobody. -/
def elMayorRR (ready : List Medida) : Except Falla (Option Medida) :=
  match ready with
  | [] => .ok none
  | pcb :: _ => do .ok (some (← recorrerRR ahora ready pcb))

end Respuesta

section Promedio

variable {alfa estimacionInicial : ℚ} {rafagas : List ℚ} {pcb : Medida}

inductive EnReady (alfa estimacionInicial : ℚ) : List ℚ → Medida → Prop
  | nuevo (basura : Medida) : EnReady alfa estimacionInicial [] (createPcb estimacionInicial basura)
  | revisado {rafagas : List ℚ} {pcb : Medida} (h : EnReady alfa estimacionInicial rafagas pcb) :
      EnReady alfa estimacionInicial rafagas (pcb.revisar alfa)
  | vuelto {rafagas : List ℚ} {pcb : Medida} (h : EnReady alfa estimacionInicial rafagas pcb)
      (rafaga : ℚ) : EnReady alfa estimacionInicial (rafagas ++ [rafaga])
        (((pcb.revisar alfa).bloquear rafaga).calcularEstimacion alfa)

/-- The exponential average of the bursts. -/
def promedio (alfa estimacionInicial : ℚ) (rafagas : List ℚ) : ℚ :=
  rafagas.foldl (fun est rafaga => alfa * rafaga + (1 - alfa) * est) estimacionInicial

/-- At every selection of this history the estimate is the exponential average. -/
def EstimaBien (alfa estimacionInicial : ℚ) (rafagas : List ℚ) : Prop :=
  ∀ previas pcb, previas <+: rafagas → EnReady alfa estimacionInicial previas pcb →
    (pcb.revisar alfa).proximaEstimacion = promedio alfa estimacionInicial previas

def estimada (alfa estimacionInicial : ℚ) (rafagas : List ℚ) : ℚ :=
  rafagas.foldl (fun est rafaga => truncar alfa * rafaga + (1 - alfa) * est)
    ((1 - alfa) * estimacionInicial)

theorem promedio_concat (rafagas : List ℚ) (rafaga : ℚ) :
    promedio alfa estimacionInicial (rafagas ++ [rafaga]) =
      alfa * rafaga + (1 - alfa) * promedio alfa estimacionInicial rafagas := by
  simp [promedio, List.foldl_append]

theorem estimada_concat (rafagas : List ℚ) (rafaga : ℚ) :
    estimada alfa estimacionInicial (rafagas ++ [rafaga]) =
      truncar alfa * rafaga + (1 - alfa) * estimada alfa estimacionInicial rafagas := by
  simp [estimada, List.foldl_append]

theorem revisar_revisar (alfa : ℚ) (pcb : Medida) :
    (pcb.revisar alfa).revisar alfa = pcb.revisar alfa := by
  unfold revisar
  by_cases hcero : pcb.rafagaRealCPU = 0
  · rw [if_pos hcero]
    exact if_pos hcero
  · rw [if_neg hcero, if_neg hcero]

theorem revisar_calcularEstimacion (alfa : ℚ) (pcb : Medida) :
    (pcb.calcularEstimacion alfa).revisar alfa = pcb.calcularEstimacion alfa := by
  unfold revisar
  split
  · rfl
  · rfl

theorem EnReady.estimada (h : EnReady alfa estimacionInicial rafagas pcb) :
    (pcb.revisar alfa).proximaEstimacion = estimada alfa estimacionInicial rafagas := by
  induction h with
  | nuevo basura => simp [revisar, createPcb, calcularEstimacion, Medida.estimada]
  | revisado h ih => rw [revisar_revisar, ih]
  | vuelto h rafaga ih =>
    rw [revisar_calcularEstimacion, estimada_concat, ← ih]
    rfl

theorem exists_enReady (alfa estimacionInicial : ℚ) (rafagas : List ℚ) :
    ∃ pcb, EnReady alfa estimacionInicial rafagas pcb := by
  induction rafagas using List.reverseRecOn with
  | nil => exact ⟨_, .nuevo ⟨0, 0, 0, 0, 0⟩⟩
  | append_singleton rafagas rafaga ih =>
    obtain ⟨pcb, h⟩ := ih
    exact ⟨_, h.vuelto rafaga⟩

theorem estimaBien_iff_estimada : EstimaBien alfa estimacionInicial rafagas ↔
    ∀ previas, previas <+: rafagas →
      estimada alfa estimacionInicial previas = promedio alfa estimacionInicial previas := by
  constructor
  · intro h previas hprevias
    obtain ⟨pcb, hpcb⟩ := exists_enReady alfa estimacionInicial previas
    rw [← hpcb.estimada]
    exact h previas pcb hprevias hpcb
  · intro h previas pcb hprevias hpcb
    rw [hpcb.estimada]
    exact h previas hprevias

/-- The recurrence is the right one where the conversion changes nothing, or is given nothing
to change. -/
theorem estimaBien_iff_pasos : EstimaBien alfa estimacionInicial rafagas ↔
    alfa * estimacionInicial = 0 ∧ ∀ rafaga ∈ rafagas, (truncar alfa - alfa) * rafaga = 0 := by
  rw [estimaBien_iff_estimada]
  constructor
  · intro h
    refine ⟨?_, fun rafaga hrafaga => ?_⟩
    · have hinicio : (1 - alfa) * estimacionInicial = estimacionInicial := h [] List.nil_prefix
      linarith
    · obtain ⟨previas, posteriores, rfl⟩ := List.append_of_mem hrafaga
      have hantes := h previas (List.prefix_append _ _)
      have hdespues := h (previas ++ [rafaga]) ⟨posteriores, by simp⟩
      rw [estimada_concat, promedio_concat, hantes] at hdespues
      linarith
  · rintro ⟨hinicio, hrafagas⟩ previas hprevias
    induction previas using List.reverseRecOn with
    | nil =>
      show (1 - alfa) * estimacionInicial = estimacionInicial
      linarith
    | append_singleton previas rafaga ih =>
      have hrafaga := hrafagas rafaga (hprevias.mem (by simp))
      rw [estimada_concat, promedio_concat, ih ((List.prefix_append _ _).trans hprevias)]
      linarith

/-- Between 0 and 1 the conversion keeps only the ends. -/
theorem truncar_alfa (h0 : 0 ≤ alfa) (h1 : alfa < 1) : truncar alfa = 0 := by
  rw [truncar, if_pos h0, Int.floor_eq_iff]
  exact ⟨by simpa using h0, by simpa using h1⟩

theorem truncar_uno : truncar 1 = 1 := by decide +kernel

/-- The estimates of a history are the exponential averages exactly when `alfa` is 0, or the
first estimate is 0 and `alfa` is 1 or no burst is measured. -/
theorem estimaBien_iff (h0 : 0 ≤ alfa) (h1 : alfa ≤ 1) :
    EstimaBien alfa estimacionInicial rafagas ↔
      alfa = 0 ∨ estimacionInicial = 0 ∧ (alfa = 1 ∨ ∀ rafaga ∈ rafagas, rafaga = 0) := by
  rw [estimaBien_iff_pasos, mul_eq_zero]
  rcases h1.eq_or_lt with rfl | h1
  · simp [truncar_uno]
  · rw [truncar_alfa h0 h1]
    by_cases hcero : alfa = 0
    · simp [hcero]
    · simp [hcero, h1.ne]

end Promedio

section Eleccion

variable {alfa estimacionInicial : ℚ} {ready : List Medida}

/-- `elDeMenorSJF` takes out this position of the list, whose estimates have been looked at,
and keeps the others in order. -/
def Saca (alfa : ℚ) (ready : List Medida) (i : ℕ) : Prop :=
  ∃ pcbElegido, (ready.map (revisar alfa))[i]? = some pcbElegido ∧
    elDeMenorSJF alfa ready = .ok (pcbElegido, (ready.map (revisar alfa)).eraseIdx i)

/-- `elDeMenorSJF` takes out the first of those for which this number is least. -/
def SacaMenor (alfa : ℚ) (ready : List Medida) (numeros : List ℚ) : Prop :=
  ∃ i m, IsFirstBest (· < ·) numeros i m ∧ Saca alfa ready i

def estimaciones (alfa : ℚ) (ready : List Medida) : List ℚ :=
  ready.map fun pcb => (pcb.revisar alfa).proximaEstimacion

/-- The loop looks at every estimate and stops at the first least one below its bound. -/
theorem recorrerListos_eq (i : ℕ) (minSJF : ℚ) (minID : ℕ) :
    recorrerListos alfa ready i minSJF minID =
      (ready.map (revisar alfa), firstBest (· < ·) (estimaciones alfa ready) i minSJF minID) := by
  induction ready generalizing i minSJF minID with
  | nil => rfl
  | cons pcb ready ih =>
    rw [recorrerListos, estimaciones, List.map_cons, List.map_cons, firstBest, ← estimaciones]
    by_cases hmenor : (pcb.revisar alfa).proximaEstimacion < minSJF
    · rw [if_pos hmenor, if_pos hmenor, ih]
    · rw [if_neg hmenor, if_neg hmenor, ih]

theorem firstBest_lt_length {xs : List ℚ} {m : ℚ} (hne : xs ≠ []) :
    firstBest (· < ·) xs 0 m 0 < xs.length := by
  by_cases h : ∃ x ∈ xs, x < m
  · obtain ⟨n, hn⟩ := firstBest_of_bound (· < ·) h 0
    exact (List.getElem?_eq_some_iff.1 hn.value).1
  · rw [firstBest_none (fun x hx hlt => h ⟨x, hx, hlt⟩)]
    exact List.length_pos_of_ne_nil hne

theorem elDeMenorSJF_saca (hne : ready ≠ []) :
    Saca alfa ready (firstBest (· < ·) (estimaciones alfa ready) 0 9999999 0) := by
  have hne' : estimaciones alfa ready ≠ [] := by simpa [estimaciones] using hne
  have hlargo := firstBest_lt_length (m := 9999999) hne'
  have hlargo' : (estimaciones alfa ready).length = (ready.map (revisar alfa)).length := by
    simp [estimaciones]
  rw [hlargo'] at hlargo
  have hget := List.getElem?_eq_getElem hlargo
  refine ⟨_, hget, ?_⟩
  rw [elDeMenorSJF, recorrerListos_eq]
  simp only [listGet, hget, ok_bind]

theorem Saca.congr {i j : ℕ} (hi : Saca alfa ready i) (hj : Saca alfa ready j) :
    (estimaciones alfa ready)[i]? = (estimaciones alfa ready)[j]? := by
  obtain ⟨pcb, hpcb, h⟩ := hi
  obtain ⟨pcb', hpcb', h'⟩ := hj
  obtain ⟨rfl, -⟩ := Prod.mk.inj (Except.ok.inj (h.symm.trans h'))
  have hmap : estimaciones alfa ready = (ready.map (revisar alfa)).map proximaEstimacion := by
    rw [List.map_map]
    rfl
  rw [hmap]
  generalize ready.map (revisar alfa) = revisados at hpcb hpcb' ⊢
  rw [List.getElem?_map, List.getElem?_map, hpcb, hpcb']

theorem sacaMenor_estimaciones (hne : ready ≠ []) :
    SacaMenor alfa ready (estimaciones alfa ready) ↔
      (∃ x ∈ estimaciones alfa ready, x < 9999999) ∨
        ∀ m ∈ (estimaciones alfa ready).head?, ∀ x ∈ estimaciones alfa ready, m ≤ x := by
  have hsaca : Saca alfa ready _ := elDeMenorSJF_saca hne
  constructor
  · rintro ⟨i, m, hmenor, hi⟩
    by_contra hno
    rw [not_or, not_exists] at hno
    obtain ⟨hcota, hprimera⟩ := hno
    rw [firstBest_none (fun x hx hlt => hcota x ⟨hx, hlt⟩)] at hsaca
    refine hprimera fun m' hm' x hx => not_lt.1 ?_
    have hcabeza := hi.congr hsaca
    rw [hmenor.value, ← List.head?_eq_getElem?, Option.mem_def.1 hm'] at hcabeza
    cases hcabeza
    exact hmenor.unbeaten x hx
  · intro hcond
    by_cases hcota : ∃ x ∈ estimaciones alfa ready, x < 9999999
    · obtain ⟨m, hm⟩ := firstBest_of_bound (· < ·) hcota 0
      exact ⟨_, m, hm, hsaca⟩
    · have hprimera := hcond.resolve_left hcota
      rw [firstBest_none (fun x hx hlt => hcota ⟨x, hx, hlt⟩)] at hsaca
      have hcabeza := List.head?_eq_some_head (l := estimaciones alfa ready)
        (by simpa [estimaciones] using hne)
      refine ⟨0, _, ⟨?_, fun x hx => not_lt.2 (hprimera _ hcabeza x hx), ?_⟩, hsaca⟩
      · rw [← List.head?_eq_getElem?, hcabeza]
      · exact fun j hj => absurd hj j.not_lt_zero

/-- Where the estimates are averages, those that `elDeMenorSJF` compares are the averages. -/
theorem estimaciones_eq {historias : List (List ℚ)}
    (h : List.Forall₂ (EnReady alfa estimacionInicial) historias ready)
    (hbien : ∀ rafagas ∈ historias, EstimaBien alfa estimacionInicial rafagas) :
    estimaciones alfa ready = historias.map (promedio alfa estimacionInicial) := by
  induction h with
  | nil => rfl
  | cons hpcb _ ih =>
    rw [List.forall_mem_cons] at hbien
    rw [estimaciones, List.map_cons, List.map_cons, ← estimaciones, ih hbien.2,
      hbien.1 _ _ (List.prefix_refl _) hpcb]

/-- SJF goes by exponential averages, and takes the first least one, exactly when each history
is one for which the estimates are averages, and some average is below the bound of the loop or
the first one is least. -/
theorem sjf_iff (h0 : 0 ≤ alfa) (h1 : alfa ≤ 1) {historias : List (List ℚ)}
    (h : List.Forall₂ (EnReady alfa estimacionInicial) historias ready) (hne : ready ≠ []) :
    (∀ rafagas ∈ historias, EstimaBien alfa estimacionInicial rafagas) ∧
        SacaMenor alfa ready (historias.map (promedio alfa estimacionInicial)) ↔
      (∀ rafagas ∈ historias, alfa = 0 ∨ estimacionInicial = 0 ∧
        (alfa = 1 ∨ ∀ rafaga ∈ rafagas, rafaga = 0)) ∧
      ((∃ rafagas ∈ historias, promedio alfa estimacionInicial rafagas < 9999999) ∨
        ∀ primera ∈ historias.head?, ∀ rafagas ∈ historias,
          promedio alfa estimacionInicial primera ≤ promedio alfa estimacionInicial rafagas) := by
  rw [← forall₂_congr fun rafagas _ => estimaBien_iff h0 h1]
  refine and_congr_right fun hbien => ?_
  rw [← estimaciones_eq h hbien, sacaMenor_estimaciones hne, estimaciones_eq h hbien]
  simp only [List.mem_map, exists_exists_and_eq_and, forall_exists_index, and_imp,
    forall_apply_eq_imp_iff₂, List.head?_map, Option.mem_map]

/-- One carpincho that comes back and one that is new, with `alfa` 0. -/
theorem sjf_alfaCero :
    (∀ rafagas ∈ [[3], []], EstimaBien 0 10 rafagas) ∧
      SacaMenor 0 [((((createPcb 10 ⟨1, 0, 0, 0, 0⟩).revisar 0).bloquear 3).calcularEstimacion 0),
        createPcb 10 ⟨2, 0, 0, 0, 0⟩] ([[3], []].map (promedio 0 10)) := by
  have hready := List.Forall₂.cons ((@EnReady.nuevo 0 10
    ⟨1, 0, 0, 0, 0⟩).vuelto 3) (List.Forall₂.cons (EnReady.nuevo ⟨2, 0, 0, 0, 0⟩) .nil)
  refine (sjf_iff le_rfl zero_le_one hready (List.cons_ne_nil _ _)).2
    ⟨fun _ _ => Or.inl rfl, Or.inl ⟨[], by simp, ?_⟩⟩
  norm_num [promedio]

/-- A new carpincho is estimated at half of what it should be. -/
theorem primera_estimacion_reducida :
    ¬ ∀ (alfa estimacionInicial : ℚ) (historias : List (List ℚ)) (ready : List Medida),
      0 ≤ alfa → alfa ≤ 1 → List.Forall₂ (EnReady alfa estimacionInicial) historias ready →
      ready ≠ [] → (∀ rafagas ∈ historias, EstimaBien alfa estimacionInicial rafagas) ∧
        SacaMenor alfa ready (historias.map (promedio alfa estimacionInicial)) := by
  intro hclaim
  have hnuevo : EnReady (1 / 2) 10 [] (createPcb 10 ⟨1, 0, 0, 0, 0⟩) := .nuevo _
  obtain ⟨hestima, -⟩ := hclaim (1 / 2) 10 [[]] [createPcb 10 ⟨1, 0, 0, 0, 0⟩] (by norm_num)
    (by norm_num) (.cons hnuevo .nil) (List.cons_ne_nil _ _)
  have hestimacion := hestima [] (List.mem_singleton_self _) [] _ List.nil_prefix hnuevo
  norm_num [revisar, createPcb, calcularEstimacion, promedio] at hestimacion

end Eleccion

end Medida

end Carpinchos.Kernel
