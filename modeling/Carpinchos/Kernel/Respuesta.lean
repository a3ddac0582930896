import Carpinchos.Kernel.Estimacion

/-!
# The greatest response ratio

`elMayorRR` compares response ratios after converting them to `int`. Dropping the fractional
part keeps the order of two ratios only weakly, so the carpincho it returns is the first of those
whose ratio has the greatest integer part, which need not be the one with the greatest ratio.
-/

namespace Carpinchos.Kernel

open Outcome Selection

theorem truncar_mono {x y : ℚ} (h : x ≤ y) : truncar x ≤ truncar y := by
  unfold truncar
  split
  · next hx =>
    rw [if_pos (hx.trans h)]
    exact Int.floor_mono h
  · next hx =>
    split
    · next hy =>
      have hx' : ⌈x⌉ ≤ 0 := Int.ceil_le.2 (by simpa using (not_le.1 hx).le)
      exact hx'.trans (Int.floor_nonneg.2 hy)
    · exact Int.ceil_mono h

namespace Medida

section Definiciones

variable (ahora : ℤ)

def ratio (pcb : Medida) : ℚ := 1 + (ahora - pcb.timestampReadyIn : ℤ) / pcb.previaEstimacion

/-- The waiting time and the ratio have their values in an `int`. -/
def CabeEnInt (pcb : Medida) : Prop :=
  (-2 ^ 31 ≤ ahora - pcb.timestampReadyIn ∧ ahora - pcb.timestampReadyIn < 2 ^ 31) ∧
    -2 ^ 31 ≤ truncar (pcb.ratio ahora) ∧ truncar (pcb.ratio ahora) < 2 ^ 31

instance (pcb : Medida) : Decidable (pcb.CabeEnInt ahora) :=
  inferInstanceAs (Decidable (_ ∧ _))

def ratios (ready : List Medida) : List ℚ := ready.map (ratio ahora)

def enteros (ready : List Medida) : List ℤ := ready.map fun pcb => truncar (pcb.ratio ahora)

/-- Nobody has a greater ratio than the first of those whose ratio has the greatest integer
part. -/
def PrimeroAlcanza (ready : List Medida) : Prop :=
  ∀ i n pcb, IsFirstBest (· > ·) (enteros ahora ready) i n → ready[i]? = some pcb →
    ∀ q ∈ ready, q.ratio ahora ≤ pcb.ratio ahora

/-- `elMayorRR` returns the first of those with the greatest ratio. -/
def DevuelveMayor (ready : List Medida) : Prop :=
  ∃ i m pcb, elMayorRR ahora ready = .ok (some pcb) ∧ ready[i]? = some pcb ∧
    IsFirstBest (· > ·) (ratios ahora ready) i m

end Definiciones

section Eleccion

variable {ahora : ℤ} {ready : List Medida} {pcb elegido : Medida}

theorem entero_iff {x y : ℤ} : entero x = .ok y ↔ (-2 ^ 31 ≤ x ∧ x < 2 ^ 31) ∧ y = x := by
  unfold entero
  split
  · next h => rw [Except.ok.injEq, and_iff_right h, eq_comm]
  · next h => exact iff_of_false (fun hno => by cases hno) fun hno => h hno.1

theorem calculoRR_eq_ok (hpos : 0 < pcb.previaEstimacion) {valor : ℤ} :
    pcb.calculoRR ahora = .ok valor ↔
      pcb.CabeEnInt ahora ∧ valor = truncar (pcb.ratio ahora) := by
  rw [calculoRR, bind_eq_ok, CabeEnInt]
  simp only [if_neg hpos.ne', entero_iff]
  constructor
  · rintro ⟨tiempoReady, ⟨hespera, rfl⟩, hratio, rfl⟩
    exact ⟨⟨hespera, hratio⟩, rfl⟩
  · rintro ⟨⟨hespera, hratio⟩, rfl⟩
    exact ⟨_, ⟨hespera, rfl⟩, hratio, rfl⟩

/-- The loop goes from the first greatest integer part of what has been seen to that of all. -/
theorem recorrerRR_ok {vistos : List Medida} {i : ℕ} (hpos : ∀ q ∈ ready, 0 < q.previaEstimacion)
    (helegido : 0 < elegido.previaEstimacion) (hi : vistos[i]? = some elegido)
    (hmayor : IsFirstBest (· > ·) (enteros ahora vistos) i (truncar (elegido.ratio ahora)))
    (h : recorrerRR ahora ready elegido = .ok pcb) :
    (∀ q ∈ ready, q.CabeEnInt ahora) ∧ ∃ j, (vistos ++ ready)[j]? = some pcb ∧
      IsFirstBest (· > ·) (enteros ahora (vistos ++ ready)) j (truncar (pcb.ratio ahora)) := by
  induction ready generalizing vistos elegido i with
  | nil =>
    cases h
    exact ⟨fun q hq => absurd hq List.not_mem_nil, i, by rwa [List.append_nil],
      by rwa [List.append_nil]⟩
  | cons q ready ih =>
    rw [List.forall_mem_cons] at hpos
    obtain ⟨posible, hposible, h⟩ := bind_eq_ok.1 h
    obtain ⟨mejor, hmejor, h⟩ := bind_eq_ok.1 h
    obtain ⟨hcabe, rfl⟩ := (calculoRR_eq_ok hpos.1).1 hposible
    obtain ⟨-, rfl⟩ := (calculoRR_eq_ok helegido).1 hmejor
    have henteros : enteros ahora (vistos ++ [q]) =
        enteros ahora vistos ++ [truncar (q.ratio ahora)] := by
      simp [enteros]
    rw [List.append_cons]
    split at h
    · next hgana =>
      have hlargo : (enteros ahora vistos).length = vistos.length := by simp [enteros]
      have hmayor' := isFirstBest_concat hmayor.unbeaten hgana
      rw [hlargo, ← henteros] at hmayor'
      obtain ⟨hresto, hfin⟩ := ih hpos.2 hpos.1 List.getElem?_concat_length hmayor' h
      exact ⟨List.forall_mem_cons.2 ⟨hcabe, hresto⟩, hfin⟩
    · next hpierde =>
      have hi' : (vistos ++ [q])[i]? = some elegido := by
        rwa [List.getElem?_append_left (List.getElem?_eq_some_iff.1 hi).1]
      have hmayor' := hmayor.concat hpierde
      rw [← henteros] at hmayor'
      obtain ⟨hresto, hfin⟩ := ih hpos.2 helegido hi' hmayor' h
      exact ⟨List.forall_mem_cons.2 ⟨hcabe, hresto⟩, hfin⟩

theorem recorrerRR_returns (hpos : ∀ q ∈ ready, 0 < q.previaEstimacion)
    (helegido : 0 < elegido.previaEstimacion) (hcabe : ∀ q ∈ ready, q.CabeEnInt ahora)
    (hcabe' : elegido.CabeEnInt ahora) : ∃ pcb, recorrerRR ahora ready elegido = .ok pcb := by
  induction ready generalizing elegido with
  | nil => exact ⟨elegido, rfl⟩
  | cons q ready ih =>
    rw [List.forall_mem_cons] at hpos hcabe
    rw [recorrerRR, (calculoRR_eq_ok hpos.1).2 ⟨hcabe.1, rfl⟩, ok_bind,
      (calculoRR_eq_ok helegido).2 ⟨hcabe', rfl⟩, ok_bind]
    split
    · exact ih hpos.2 hpos.1 hcabe.2 hcabe.1
    · exact ih hpos.2 helegido hcabe.2 hcabe'

/-- `elMayorRR` returns the first of those whose ratio has the greatest integer part. -/
theorem elMayorRR_ok (hpos : ∀ q ∈ ready, 0 < q.previaEstimacion)
    (h : elMayorRR ahora ready = .ok (some pcb)) :
    (∀ q ∈ ready, q.CabeEnInt ahora) ∧ ∃ j, ready[j]? = some pcb ∧
      IsFirstBest (· > ·) (enteros ahora ready) j (truncar (pcb.ratio ahora)) := by
  cases ready with
  | nil => cases h
  | cons q ready =>
    obtain ⟨elegido, helegido, h⟩ := bind_eq_ok.1 h
    cases h
    rw [List.forall_mem_cons] at hpos
    obtain ⟨posible, hposible, h⟩ := bind_eq_ok.1 helegido
    obtain ⟨mejor, hmejor, h⟩ := bind_eq_ok.1 h
    cases hposible.symm.trans hmejor
    rw [if_neg (lt_irrefl _)] at h
    obtain ⟨hcabe, -⟩ := (calculoRR_eq_ok hpos.1).1 hposible
    have hsolo : IsFirstBest (· > ·) (enteros ahora [q]) 0 (truncar (q.ratio ahora)) :=
      ⟨rfl, by simp [enteros], fun j hj => absurd hj j.not_lt_zero⟩
    obtain ⟨hresto, hfin⟩ := recorrerRR_ok hpos.2 hpos.1 rfl hsolo h
    exact ⟨List.forall_mem_cons.2 ⟨hcabe, hresto⟩, hfin⟩

/-- The integer parts order the ratios, though not strictly. -/
theorem enteros_antes {i : ℕ} {n : ℤ} (h : IsFirstBest (· > ·) (enteros ahora ready) i n)
    (hi : ready[i]? = some pcb) :
    ∀ j < i, ∀ x, (ratios ahora ready)[j]? = some x → pcb.ratio ahora > x := by
  intro j hj x hx
  have hn : truncar (pcb.ratio ahora) = n := by
    have hvalor := h.value
    rw [enteros, List.getElem?_map, hi] at hvalor
    exact Option.some.inj hvalor
  rw [ratios, List.getElem?_map, Option.map_eq_some_iff] at hx
  obtain ⟨q, hq, rfl⟩ := hx
  have hmenor := h.first j hj (truncar (q.ratio ahora)) (by
    rw [enteros, List.getElem?_map, hq]
    rfl)
  by_contra hno
  exact absurd (truncar_mono (not_lt.1 hno)) (by rw [hn]; exact not_le.2 hmenor)

/-- `elMayorRR` returns the first of those with the greatest ratio exactly when every ratio has a
value in an `int` and nobody has a greater ratio than the first with the greatest integer
part. -/
theorem devuelveMayor_iff (hne : ready ≠ []) (hpos : ∀ q ∈ ready, 0 < q.previaEstimacion) :
    DevuelveMayor ahora ready ↔
      (∀ q ∈ ready, q.CabeEnInt ahora) ∧ PrimeroAlcanza ahora ready := by
  constructor
  · rintro ⟨i, m, pcb, h, hi, hmayor⟩
    obtain ⟨hcabe, j, hj, hentero⟩ := elMayorRR_ok hpos h
    refine ⟨hcabe, fun k n pcb' hk hpcb' q hq => ?_⟩
    rw [hk.unique hentero, hj] at hpcb'
    cases hpcb'
    have hm := hmayor.value
    rw [ratios, List.getElem?_map, hi] at hm
    cases hm
    exact not_lt.1 (hmayor.unbeaten _ (List.mem_map_of_mem hq))
  · rintro ⟨hcabe, halcanza⟩
    obtain ⟨pcb, h⟩ : ∃ pcb, elMayorRR ahora ready = .ok (some pcb) := by
      cases ready with
      | nil => exact absurd rfl hne
      | cons q ready =>
        obtain ⟨pcb, h⟩ := recorrerRR_returns hpos (hpos q List.mem_cons_self) hcabe
          (hcabe q List.mem_cons_self)
        exact ⟨pcb, by rw [elMayorRR, h, ok_bind]⟩
    obtain ⟨-, i, hi, hentero⟩ := elMayorRR_ok hpos h
    refine ⟨i, _, pcb, h, hi, ⟨by rw [ratios, List.getElem?_map, hi]; rfl, ?_,
      enteros_antes hentero hi⟩⟩
    intro x hx
    obtain ⟨q, hq, rfl⟩ := List.mem_map.1 hx
    exact not_lt.2 (halcanza i _ pcb hentero hi q hq)

/-- Ratios 11/10 and 29/10. -/
theorem devuelveMayor_lejos :
    DevuelveMayor 950 [⟨1, 0, 1000, 0, 850⟩, ⟨2, 0, 500, 0, 0⟩] := by
  have henteros : enteros 950 [⟨1, 0, 1000, 0, 850⟩, ⟨2, 0, 500, 0, 0⟩] = [1, 2] := by
    decide +kernel
  have hsegundo : IsFirstBest (· > ·) [1, 2] 1 (2 : ℤ) := by
    refine ⟨rfl, by simp, fun j hj x hx => ?_⟩
    obtain rfl : j = 0 := by omega
    cases hx
    decide
  refine (devuelveMayor_iff (List.cons_ne_nil _ _) (by simp)).2 ⟨by decide +kernel, ?_⟩
  intro i n pcb hi hpcb
  rw [henteros] at hi
  rw [hi.unique hsegundo] at hpcb
  cases hpcb
  decide +kernel

/-- Ratios 11/10 and 19/10: the first one is returned. -/
theorem ratios_iguales_truncados :
    ¬ ∀ (ahora : ℤ) (ready : List Medida), ready ≠ [] →
      (∀ q ∈ ready, 0 < q.previaEstimacion) → DevuelveMayor ahora ready := by
  intro hclaim
  obtain ⟨i, m, pcb, h, hi, hmayor⟩ := hclaim 950 [⟨1, 0, 1000, 0, 850⟩, ⟨2, 0, 1000, 0, 50⟩]
    (List.cons_ne_nil _ _) (by simp)
  have hprimero : returns (elMayorRR 950 [⟨1, 0, 1000, 0, 850⟩, ⟨2, 0, 1000, 0, 50⟩])
      (fun r => r = some ⟨1, 0, 1000, 0, 850⟩) = true := by
    decide +kernel
  rw [h, returns, decide_eq_true_eq, Option.some.injEq] at hprimero
  have hm := hmayor.value
  rw [ratios, List.getElem?_map, hi, hprimero] at hm
  cases hm
  exact hmayor.unbeaten (ratio 950 ⟨2, 0, 1000, 0, 50⟩) (by simp [ratios]) (by decide +kernel)

end Eleccion

end Medida

end Carpinchos.Kernel
