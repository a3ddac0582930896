import Mathlib.Tactic.Linarith
import Mathlib.Order.RelClasses

/-!
# Selecting the first best element

A selection loop goes through a list with the best element seen so far and its position,
and moves on when it finds a better one. Over any strict total order it stops at the first
of the best elements, also when it starts from a bound instead of an element, as long as
something in the list beats the bound.
-/

namespace Carpinchos.Selection

variable {β : Type*} {better : β → β → Prop}

/-- The loop, from position `i` on; `m` is the best so far and `best` its position. -/
def firstBest (better : β → β → Prop) [DecidableRel better] : List β → ℕ → β → ℕ → ℕ
  | [], _, _, best => best
  | x :: xs, i, m, best =>
    if better x m then firstBest better xs (i + 1) x i else firstBest better xs (i + 1) m best

/-- The value `m` at this position is beaten by none of the list, and beats all before it. -/
structure IsFirstBest (better : β → β → Prop) (xs : List β) (i : ℕ) (m : β) : Prop where
  value : xs[i]? = some m
  unbeaten : ∀ x ∈ xs, ¬ better x m
  first : ∀ j < i, ∀ x, xs[j]? = some x → better m x

variable {xs : List β} {i j : ℕ} {m n x : β}

theorem IsFirstBest.unique (h : IsFirstBest better xs i m) (h' : IsFirstBest better xs j n) :
    i = j := by
  rcases lt_trichotomy i j with hij | hij | hij
  · exact absurd (h'.first i hij m h.value) (h.unbeaten n (List.mem_of_getElem? h'.value))
  · exact hij
  · exact absurd (h.first j hij n h'.value) (h'.unbeaten m (List.mem_of_getElem? h.value))

theorem IsFirstBest.concat (h : IsFirstBest better xs i m) (hx : ¬ better x m) :
    IsFirstBest better (xs ++ [x]) i m where
  value := by
    have hi := (List.getElem?_eq_some_iff.1 h.value).1
    rw [List.getElem?_append_left hi, h.value]
  unbeaten y hy := by
    rcases List.mem_append.1 hy with hy | hy
    · exact h.unbeaten y hy
    · rwa [List.mem_singleton.1 hy]
  first j hj y hy := by
    have hi := (List.getElem?_eq_some_iff.1 h.value).1
    rw [List.getElem?_append_left (hj.trans hi)] at hy
    exact h.first j hj y hy

section Order

variable [IsStrictTotalOrder β better]

theorem isFirstBest_concat (h : ∀ y ∈ xs, ¬ better y m) (hx : better x m) :
    IsFirstBest better (xs ++ [x]) xs.length x where
  value := by rw [List.getElem?_concat_length]
  unbeaten y hy := by
    rcases List.mem_append.1 hy with hy | hy
    · exact fun hbeats => h y hy (trans_of better hbeats hx)
    · rw [List.mem_singleton.1 hy]
      exact irrefl_of better x
  first j hj y hy := by
    rw [List.getElem?_append_left hj] at hy
    exact trans_trichotomous_right hx (h y (List.mem_of_getElem? hy))

variable [DecidableRel better]

/-- From the first best element of what has been seen the loop goes to that of all. -/
theorem firstBest_spec {seen : List β} {best : ℕ} (h : IsFirstBest better seen best m)
    (xs : List β) :
    ∃ n, IsFirstBest better (seen ++ xs) (firstBest better xs seen.length m best) n := by
  induction xs generalizing seen m best with
  | nil => exact ⟨m, by rwa [List.append_nil]⟩
  | cons x xs ih =>
    have hlength : (seen ++ [x]).length = seen.length + 1 := by simp
    rw [firstBest, List.append_cons, ← hlength]
    split
    · next hx => exact ih (isFirstBest_concat h.unbeaten hx)
    · next hx => exact ih (h.concat hx)

theorem firstBest_bound {seen : List β} (h : ∀ y ∈ seen, ¬ better y m)
    (hx : ∃ x ∈ xs, better x m) (best : ℕ) :
    ∃ n, IsFirstBest better (seen ++ xs) (firstBest better xs seen.length m best) n := by
  induction xs generalizing seen with
  | nil =>
    obtain ⟨x, hx, -⟩ := hx
    exact absurd hx List.not_mem_nil
  | cons y xs ih =>
    have hlength : (seen ++ [y]).length = seen.length + 1 := by simp
    rw [firstBest, List.append_cons, ← hlength]
    split
    · next hy => exact firstBest_spec (isFirstBest_concat h hy) xs
    · next hy =>
      refine ih (fun z hz => ?_) ?_
      · rcases List.mem_append.1 hz with hz | hz
        · exact h z hz
        · rwa [List.mem_singleton.1 hz]
      · obtain ⟨x, hx, hbeats⟩ := hx
        rcases List.mem_cons.1 hx with rfl | hx
        · exact absurd hbeats hy
        · exact ⟨x, hx, hbeats⟩

theorem firstBest_of_bound (better : β → β → Prop) [IsStrictTotalOrder β better]
    [DecidableRel better] (h : ∃ x ∈ xs, better x m) (best : ℕ) :
    ∃ n, IsFirstBest better xs (firstBest better xs 0 m best) n := by
  have hnil : ∀ y ∈ ([] : List β), ¬ better y m := fun _ hy => absurd hy List.not_mem_nil
  exact firstBest_bound hnil h best

end Order

theorem firstBest_none [DecidableRel better] {xs : List β} {m : β}
    (h : ∀ x ∈ xs, ¬ better x m) (i best : ℕ) : firstBest better xs i m best = best := by
  induction xs generalizing i with
  | nil => rfl
  | cons x xs ih =>
    rw [List.forall_mem_cons] at h
    rw [firstBest, if_neg h.1, ih h.2]

end Carpinchos.Selection
