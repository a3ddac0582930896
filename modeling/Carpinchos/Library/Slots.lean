import Mathlib.Tactic

/-!
# Tables of slots

A slot is empty or holds one key. Filling an empty slot with a new key and emptying a
slot keep the keys at most once in the table. The second half relates a table kept as a
list of records to these two operations.
-/

namespace Carpinchos.Slots

variable {ι κ : Type} {t : ι → Option κ} {i j : ι} {k k' : κ}

def Holds (t : ι → Option κ) (k : κ) : Prop := ∃ i, t i = some k

def Unique (t : ι → Option κ) : Prop := ∀ i j k, t i = some k → t j = some k → i = j

section Updates

variable [DecidableEq ι]

theorem Unique.fill (h : Unique t) (hk : ¬ Holds t k) (i : ι) :
    Unique (Function.update t i (some k)) := by
  intro a b k' ha hb
  rw [Function.update_apply] at ha hb
  split at ha <;> split at hb
  · next hai hbi => rw [hai, hbi]
  · cases ha
    exact absurd ⟨b, hb⟩ hk
  · cases hb
    exact absurd ⟨a, ha⟩ hk
  · exact h a b k' ha hb

theorem Unique.release (h : Unique t) (i : ι) : Unique (Function.update t i none) := by
  intro a b k' ha hb
  rw [Function.update_apply] at ha hb
  split at ha <;> split at hb
  · cases ha
  · cases ha
  · cases hb
  · exact h a b k' ha hb

theorem holds_fill (hi : t i = none) :
    Holds (Function.update t i (some k)) k' ↔ k' = k ∨ Holds t k' := by
  constructor
  · rintro ⟨j, hj⟩
    rw [Function.update_apply] at hj
    split at hj
    · exact Or.inl (Option.some.inj hj).symm
    · exact Or.inr ⟨j, hj⟩
  · rintro (rfl | ⟨j, hj⟩)
    · exact ⟨i, Function.update_self _ _ _⟩
    · refine ⟨j, ?_⟩
      rwa [Function.update_of_ne]
      rintro rfl
      rw [hi] at hj
      cases hj

theorem holds_release (h : Unique t) (hi : t i = some k) :
    Holds (Function.update t i none) k' ↔ k' ≠ k ∧ Holds t k' := by
  constructor
  · rintro ⟨j, hj⟩
    rw [Function.update_apply] at hj
    split at hj
    · cases hj
    · next hji =>
      refine ⟨?_, j, hj⟩
      rintro rfl
      exact hji (h j i _ hj hi)
  · rintro ⟨hk, j, hj⟩
    refine ⟨j, ?_⟩
    rwa [Function.update_of_ne]
    rintro rfl
    rw [hi] at hj
    exact hk (Option.some.inj hj).symm

end Updates

section Lists

variable {α : Type} {l : List α} {x : α} {p : α → Prop} [DecidablePred p] {f : α → α} {n : ℕ}

theorem map_ite_eq_set (hx : l[n]? = some x) (hp : p x)
    (huna : ∀ m y, l[m]? = some y → p y → m = n) :
    (l.map fun y => if p y then f y else y) = l.set n (f x) := by
  refine List.ext_getElem? fun m => ?_
  rw [List.getElem?_map, List.getElem?_set]
  by_cases hmn : n = m
  · subst hmn
    have hlt : n < l.length := (List.getElem?_eq_some_iff.1 hx).1
    rw [hx, Option.map_some, if_pos hp, if_pos rfl, if_pos hlt]
  · rw [if_neg hmn]
    cases hy : l[m]? with
    | none => rfl
    | some y =>
      have hno : ¬ p y := fun hpy => hmn (huna m y hy hpy).symm
      simp [hno]

theorem map_ite_eq_self (hno : ∀ y ∈ l, ¬ p y) :
    (l.map fun y => if p y then f y else y) = l := by
  refine (List.map_congr_left fun y hy => ?_).trans (List.map_id' l)
  rw [if_neg (hno y hy)]

end Lists

end Carpinchos.Slots
