import Mathlib.Tactic

/-!
# Elements spread over queues

A family of queues holds a set of elements when each of them is in exactly one queue, once.
Taking elements out of a queue keeps this for the set without them, and putting new elements
at the end of a queue keeps it for the set with them; moving elements is doing both.
-/

namespace Carpinchos.Queues

section Lists

variable {α : Type} {l l₁ l₂ : List α} {i : ℕ} {x : α}

theorem cons_eraseIdx_perm (h : l[i]? = some x) : (x :: l.eraseIdx i).Perm l := by
  obtain ⟨hlt, rfl⟩ := List.getElem?_eq_some_iff.1 h
  exact List.getElem_cons_eraseIdx_perm hlt

theorem perm_eraseIdx_append (h : l[i]? = some x) : l.Perm (l.eraseIdx i ++ [x]) :=
  ((List.perm_append_singleton x _).trans (cons_eraseIdx_perm h)).symm

theorem mem_left_of_perm (hl : l.Nodup) (h : l.Perm (l₁ ++ l₂)) : x ∈ l₁ ↔ x ∈ l ∧ x ∉ l₂ := by
  have hdisjoint := (List.nodup_append.1 (h.nodup_iff.1 hl)).2.2
  rw [h.mem_iff, List.mem_append]
  constructor
  · intro hx
    exact ⟨Or.inl hx, fun hx' => hdisjoint x hx x hx' rfl⟩
  · rintro ⟨hx | hx, hno⟩
    · exact hx
    · exact absurd hx hno

/-- The outcome of a search for the first element that passes a test, in a loop whose counter
starts at `n`. -/
def Finds (test : α → Bool) (l : List α) (n : ℕ) : Option ℕ → Prop
  | none => l.find? test = none
  | some j => ∃ i x, j = n + i ∧ l[i]? = some x ∧ l.find? test = some x

variable {test : α → Bool} {n : ℕ} {o : Option ℕ}

theorem finds_cons_pos (hx : test x = true) : Finds test (x :: l) n (some n) :=
  ⟨0, x, rfl, rfl, List.find?_cons_of_pos hx⟩

theorem finds_cons_neg (hx : test x = false) (h : Finds test l (n + 1) o) :
    Finds test (x :: l) n o := by
  have hfind : (x :: l).find? test = l.find? test := by
    rw [List.find?_cons, hx]
  cases o with
  | none => exact hfind.trans h
  | some j =>
    obtain ⟨i, y, hj, hi, hy⟩ := h
    exact ⟨i + 1, y, by omega, hi, hfind.trans hy⟩

/-- From 0 the counter is the position. -/
theorem Finds.of_zero {i : ℕ} (h : Finds test l 0 (some i)) (hx : l[i]? = some x) :
    l.find? test = some x := by
  obtain ⟨j, y, hj, hy, hfind⟩ := h
  rw [Nat.zero_add] at hj
  rw [hj, hy] at hx
  exact hfind.trans hx

theorem countP_lt_countP {P Q : α → Bool}
    (h : ∀ a ∈ l, P a = true → Q a = true) (hx : x ∈ l) (hQ : Q x = true) (hP : P x = false) :
    l.countP P < l.countP Q := by
  obtain ⟨l₁, l₂, rfl⟩ := List.append_of_mem hx
  have h₁ : l₁.countP P ≤ l₁.countP Q :=
    List.countP_mono_left fun a ha => h a (List.mem_append_left _ ha)
  have h₂ : l₂.countP P ≤ l₂.countP Q :=
    List.countP_mono_left fun a ha => h a (by simp [ha])
  simp only [List.countP_append, List.countP_cons, hQ, hP]
  simp only [Bool.false_eq_true, if_false, if_true]
  omega

end Lists

variable {κ α : Type} {q : κ → List α} {live : α → Prop} {a b c : κ} {x : α}
  {l l₁ l₂ : List α}

/-- Each element of the set is in exactly one queue, once, and no other element is in one. -/
structure Partitions (live : α → Prop) (q : κ → List α) : Prop where
  nodup : ∀ a, (q a).Nodup
  disjoint : ∀ a b x, x ∈ q a → x ∈ q b → a = b
  mem : ∀ x, live x ↔ ∃ a, x ∈ q a

theorem Partitions.live_of_mem (h : Partitions live q) (hx : x ∈ q a) : live x :=
  (h.mem x).2 ⟨a, hx⟩

theorem Partitions.congr {live' : α → Prop} (h : Partitions live q)
    (hlive : ∀ x, live' x ↔ live x) : Partitions live' q :=
  ⟨h.nodup, h.disjoint, fun x => (hlive x).trans (h.mem x)⟩

variable [DecidableEq κ]

section Remove

theorem Partitions.mem_remove (h : Partitions live q) (hperm : (q a).Perm (l₁ ++ l₂)) :
    x ∈ Function.update q a l₁ b ↔ x ∈ q b ∧ x ∉ l₂ := by
  by_cases hba : b = a
  · subst hba
    rw [Function.update_self]
    exact mem_left_of_perm (h.nodup b) hperm
  · rw [Function.update_of_ne hba]
    constructor
    · intro hx
      refine ⟨hx, fun hx' => hba ?_⟩
      apply h.disjoint b a x hx
      exact hperm.mem_iff.2 (List.mem_append_right _ hx')
    · exact And.left

theorem Partitions.remove (h : Partitions live q) (hperm : (q a).Perm (l₁ ++ l₂)) :
    Partitions (fun x => live x ∧ x ∉ l₂) (Function.update q a l₁) := by
  refine ⟨fun b => ?_, fun b c x hb hc => ?_, fun x => ?_⟩
  · by_cases hba : b = a
    · subst hba
      rw [Function.update_self]
      exact (List.nodup_append.1 (hperm.nodup_iff.1 (h.nodup b))).1
    · rw [Function.update_of_ne hba]
      exact h.nodup b
  · rw [h.mem_remove hperm] at hb hc
    exact h.disjoint b c x hb.1 hc.1
  · simp only [h.mem_remove hperm, h.mem x, exists_and_right]

end Remove

section Append

/-- The queues with some elements more at the end of one of them. -/
def append (q : κ → List α) (a : κ) (l : List α) : κ → List α := Function.update q a (q a ++ l)

theorem mem_append : x ∈ append q a l b ↔ x ∈ q b ∨ b = a ∧ x ∈ l := by
  unfold append
  by_cases hba : b = a
  · subst hba
    simp
  · rw [Function.update_of_ne hba]
    simp [hba]

theorem update_append (hab : b ≠ a) (l₁ l : List α) :
    Function.update (append q b l) a l₁ = append (Function.update q a l₁) b l := by
  rw [append, append, Function.update_comm hab.symm, Function.update_of_ne hab]

theorem Partitions.append (h : Partitions live q) (hl : l.Nodup) (hnew : ∀ x ∈ l, ¬ live x) :
    Partitions (fun x => live x ∨ x ∈ l) (append q a l) := by
  refine ⟨fun b => ?_, fun b c x hb hc => ?_, fun x => ?_⟩
  · unfold Queues.append
    by_cases hba : b = a
    · subst hba
      rw [Function.update_self]
      apply (h.nodup b).append hl
      exact fun x hx hx' => hnew x hx' (h.live_of_mem hx)
    · rw [Function.update_of_ne hba]
      exact h.nodup b
  · rw [mem_append] at hb hc
    rcases hb with hb | ⟨rfl, hb⟩
    · rcases hc with hc | ⟨rfl, hc⟩
      · exact h.disjoint b c x hb hc
      · exact absurd (h.live_of_mem hb) (hnew x hc)
    · rcases hc with hc | ⟨rfl, -⟩
      · exact absurd (h.live_of_mem hc) (hnew x hb)
      · rfl
  · simp only [mem_append, h.mem x, exists_or, exists_eq_left]

end Append

section Move

def move (q : κ → List α) (a b : κ) (rest moved : List α) : κ → List α :=
  append (Function.update q a rest) b moved

theorem Partitions.mem_move (h : Partitions live q) (hperm : (q a).Perm (l₁ ++ l₂)) :
    x ∈ move q a b l₁ l₂ c ↔ x ∈ q c ∧ x ∉ l₂ ∨ c = b ∧ x ∈ l₂ := by
  rw [move, mem_append, h.mem_remove hperm]

theorem Partitions.move (h : Partitions live q) (hperm : (q a).Perm (l₁ ++ l₂)) (b : κ) :
    Partitions live (move q a b l₁ l₂) := by
  have hl : l₂.Nodup := (List.nodup_append.1 (hperm.nodup_iff.1 (h.nodup a))).2.1
  have hlive : ∀ x ∈ l₂, live x := fun x hx =>
    h.live_of_mem (hperm.mem_iff.2 (List.mem_append_right _ hx))
  refine ((h.remove hperm).append hl fun x hx hno => hno.2 hx).congr fun x => ?_
  constructor
  · intro hx
    exact (em (x ∈ l₂)).symm.imp (fun hno => ⟨hx, hno⟩) id
  · rintro (⟨hx, -⟩ | hx)
    · exact hx
    · exact hlive x hx

end Move

end Carpinchos.Queues
