import Mathlib.Data.List.DropRight
import Mathlib.Tactic

/-!
# Page replacement policies

Two policies for choosing the page that leaves a full memory, over arbitrary
pages. Least-recently-used keeps the pages in the order of their last use;
a list sorted by time stamps is that order when no two stamps coincide, a
table whose entries are ranked by last use gives up its lowest entry, and what
is kept in a smaller memory is kept in a larger one. The enhanced second-chance
clock sweeps a list of pages from the position of its hand, looking for an unused
page with a given dirty bit.
-/

namespace Carpinchos.Replacement

variable {κ : Type*}

section Sorting

/-- A weakly sorted rearrangement of a strictly sorted list is that list. -/
theorem eq_of_perm_of_strict {key : κ → ℤ} {l l' : List κ}
    (hl : l.Pairwise fun a b => key a ≤ key b) (hl' : l'.Pairwise fun a b => key a < key b)
    (h : l.Perm l') : l = l' := by
  have hinj : ∀ a ∈ l', ∀ b ∈ l', key a = key b → a = b := by
    intro a ha b hb hkey
    by_contra hne
    have hdistinct : l'.Pairwise fun a b => key a ≠ key b := hl'.imp fun hab => ne_of_lt hab
    have : Std.Symm fun a b : κ => key a ≠ key b := ⟨fun _ _ hab => Ne.symm hab⟩
    exact hdistinct.forall ha hb hne hkey
  refine List.Perm.eq_of_pairwise ?_ hl
    (hl'.imp fun hab => le_of_lt hab) h
  intro a b ha hb hab hba
  exact hinj a (h.mem_iff.1 ha) b hb (le_antisymm hab hba)

end Sorting

section Recency

variable [DecidableEq κ]

def touch (p : κ) (order : List κ) : List κ := order.erase p ++ [p]

theorem mem_touch {p q : κ} {order : List κ} (h : order.Nodup) :
    q ∈ touch p order ↔ q = p ∨ q ∈ order := by
  simp only [touch, List.mem_append, h.mem_erase_iff, List.mem_singleton]
  tauto

theorem nodup_touch {p : κ} {order : List κ} (h : order.Nodup) : (touch p order).Nodup := by
  refine List.nodup_append.2 ⟨h.erase p, List.nodup_singleton p, ?_⟩
  intro q hq r hr heq
  rw [List.mem_singleton] at hr
  exact (h.mem_erase_iff.1 hq).1 (heq.trans hr)

theorem pairwise_touch {stamp stamp' : κ → ℕ} {p : κ} {order : List κ} (hnodup : order.Nodup)
    (hsorted : order.Pairwise fun a b => stamp a < stamp b)
    (hsame : ∀ q, q ≠ p → stamp' q = stamp q) (hfresh : ∀ q ∈ order, stamp q < stamp' p) :
    (touch p order).Pairwise fun a b => stamp' a < stamp' b := by
  refine List.pairwise_append.2 ⟨?_, List.pairwise_singleton _ _, ?_⟩
  · refine (hsorted.sublist List.erase_sublist).imp_of_mem fun {a b} ha hb hab => ?_
    rw [hsame a (hnodup.mem_erase_iff.1 ha).1, hsame b (hnodup.mem_erase_iff.1 hb).1]
    exact hab
  · intro a ha b hb
    rw [List.mem_singleton] at hb
    subst hb
    rw [hsame a (hnodup.mem_erase_iff.1 ha).1]
    exact hfresh a (List.mem_of_mem_erase ha)

/-- The place of the last use of `p` in a history of uses, counted from one; 0 for a
page that has not been used. -/
def lastUse (p : κ) (uses : List κ) : ℕ := uses.length - uses.reverse.idxOf p

@[simp] theorem lastUse_append_self (p : κ) (uses : List κ) :
    lastUse p (uses ++ [p]) = uses.length + 1 := by
  simp [lastUse]

theorem lastUse_append_of_ne {p q : κ} (h : q ≠ p) (uses : List κ) :
    lastUse q (uses ++ [p]) = lastUse q uses := by
  rw [lastUse, lastUse, List.reverse_append, List.reverse_singleton, List.singleton_append,
    List.idxOf_cons_ne _ (Ne.symm h), List.length_append, List.length_singleton]
  omega

theorem lastUse_le (p : κ) (uses : List κ) : lastUse p uses ≤ uses.length := Nat.sub_le _ _

theorem lastUse_pos {p : κ} {uses : List κ} (h : p ∈ uses) : 0 < lastUse p uses := by
  have hlt : uses.reverse.idxOf p < uses.reverse.length :=
    List.idxOf_lt_length_of_mem (List.mem_reverse.2 h)
  rw [List.length_reverse] at hlt
  exact Nat.sub_pos_of_lt hlt

theorem lastUse_inj {p q : κ} {uses : List κ} (hp : p ∈ uses)
    (h : lastUse p uses = lastUse q uses) : p = q := by
  have hpos := lastUse_pos hp
  have hlt : uses.reverse.idxOf p < uses.reverse.length :=
    List.idxOf_lt_length_of_mem (List.mem_reverse.2 hp)
  rw [lastUse] at hpos
  rw [lastUse, lastUse] at h
  have hidx : uses.reverse.idxOf p = uses.reverse.idxOf q := by omega
  exact (List.idxOf_inj (List.mem_reverse.2 hp)).1 hidx

variable {τ : Type*}

/-- Entries for different pages, all of them used, are ranked by their last uses. -/
structure RankedByUse (page : τ → κ) (rank : τ → ℕ) (l : List τ) (uses : List κ) : Prop where
  used : ∀ a ∈ l, page a ∈ uses
  unique : ∀ a ∈ l, ∀ b ∈ l, page a = page b → a = b
  order : ∀ a ∈ l, ∀ b ∈ l, lastUse (page a) uses < lastUse (page b) uses → rank a < rank b

variable {page : τ → κ} {rank rank' : τ → ℕ} {l l' : List τ} {uses : List κ}

theorem RankedByUse.nil : RankedByUse page rank [] uses :=
  ⟨fun _ h => absurd h List.not_mem_nil, fun _ h => absurd h List.not_mem_nil,
    fun _ h => absurd h List.not_mem_nil⟩

theorem RankedByUse.subset (h : RankedByUse page rank l uses) (hsub : ∀ a ∈ l', a ∈ l) :
    RankedByUse page rank l' uses :=
  ⟨fun a ha => h.used a (hsub a ha), fun a ha b hb => h.unique a (hsub a ha) b (hsub b hb),
    fun a ha b hb => h.order a (hsub a ha) b (hsub b hb)⟩

/-- The entry of the page that is used gets the highest rank, and the others keep their
order. -/
theorem RankedByUse.use (h : RankedByUse page rank l uses) {e : τ}
    (hsub : ∀ a ∈ l', a = e ∨ a ∈ l ∧ page a ≠ page e)
    (hrank : ∀ a ∈ l', ∀ b ∈ l', a ∈ l → b ∈ l → rank a < rank b → rank' a < rank' b)
    (hmax : ∀ a ∈ l', a ∈ l → page a ≠ page e → rank' a < rank' e) :
    RankedByUse page rank' l' (uses ++ [page e]) := by
  refine ⟨?_, ?_, ?_⟩
  · intro a ha
    rcases hsub a ha with rfl | ⟨hmem, -⟩
    · exact List.mem_append_right _ List.mem_cons_self
    · exact List.mem_append_left _ (h.used a hmem)
  · intro a ha b hb heq
    rcases hsub a ha with rfl | ⟨hmem, hne⟩
    · rcases hsub b hb with rfl | ⟨-, hne'⟩
      · rfl
      · exact absurd heq.symm hne'
    · rcases hsub b hb with rfl | ⟨hmem', -⟩
      · exact absurd heq hne
      · exact h.unique a hmem b hmem' heq
  · intro a ha b hb hlt
    rcases hsub a ha with rfl | ⟨hmem, hne⟩
    · rw [lastUse_append_self] at hlt
      have hle := lastUse_le (page b) (uses ++ [page a])
      rw [List.length_append, List.length_singleton] at hle
      omega
    · rcases hsub b hb with rfl | ⟨hmem', hne'⟩
      · exact hmax a ha hmem hne
      · rw [lastUse_append_of_ne hne, lastUse_append_of_ne hne'] at hlt
        exact hrank a ha b hb hmem hmem' (h.order a hmem b hmem' hlt)

/-- The entry of the lowest rank is the one of the page that was used first. -/
theorem RankedByUse.lowest (h : RankedByUse page rank l uses) {e : τ} (he : e ∈ l)
    (hmin : ∀ a ∈ l, rank e ≤ rank a) {a : τ} (ha : a ∈ l) (hne : a ≠ e) :
    lastUse (page e) uses < lastUse (page a) uses := by
  rcases lt_trichotomy (lastUse (page e) uses) (lastUse (page a) uses) with hlt | heq | hlt
  · exact hlt
  · exact absurd (h.unique e he a ha (lastUse_inj (h.used e he) heq)).symm hne
  · have hrank := h.order a ha e he hlt
    have hle := hmin a ha
    omega

end Recency

section Stack

variable {n m : ℕ} {p : κ} {uses l : List κ}

theorem length_rtake (l : List κ) (n : ℕ) : (l.rtake n).length = min n l.length := by
  rw [List.rtake, List.length_drop]
  omega

theorem rtake_of_length_le (h : l.length ≤ n) : l.rtake n = l := by
  rw [List.rtake, Nat.sub_eq_zero_of_le h, List.drop_zero]

theorem rtake_append_of_le {l' : List κ} (h : n ≤ l'.length) :
    (l ++ l').rtake n = l'.rtake n := by
  rw [List.rtake, List.length_append, Nat.add_sub_assoc h, List.drop_append,
    List.drop_eq_nil_of_le (Nat.le_add_right _ _), Nat.add_sub_cancel_left, List.nil_append,
    List.rtake]

theorem rtake_subset (h : n ≤ m) (l : List κ) : l.rtake n ⊆ l.rtake m :=
  List.drop_subset_drop_left l (Nat.sub_le_sub_left h _)

variable [DecidableEq κ]

theorem length_touch_of_mem (h : p ∈ l) : (touch p l).length = l.length := by
  rw [touch, List.length_append, List.length_erase_of_mem h, List.length_singleton,
    Nat.sub_add_cancel (List.length_pos_of_mem h)]

theorem touch_of_not_mem (h : p ∉ l) : touch p l = l ++ [p] := by
  rw [touch, List.erase_of_not_mem h]

/-- Pages may be given other names, if the name of the page that is used is its own. -/
theorem map_touch {τ : Type*} [DecidableEq τ] {f : κ → τ} (h : ∀ q ∈ l, f q = f p → q = p) :
    (touch p l).map f = touch (f p) (l.map f) := by
  have herase : (l.erase p).map f = (l.map f).erase (f p) := by
    induction l with
    | nil => rfl
    | cons q l ih =>
      by_cases hq : q = p
      · rw [hq, List.map_cons, List.erase_cons_head, List.erase_cons_head]
      · have hname : f q ≠ f p := fun heq => hq (h q List.mem_cons_self heq)
        rw [List.erase_cons_tail (by simpa using hq), List.map_cons, List.map_cons,
          List.erase_cons_tail (by simpa using hname),
          ih fun r hr => h r (List.mem_cons_of_mem q hr)]
  rw [touch, touch, List.map_append, herase, List.map_singleton]

/-- The pages of a history in the order of their last use. -/
def recency (uses : List κ) : List κ := uses.foldl (fun order p => touch p order) []

@[simp] theorem recency_append (uses : List κ) (p : κ) :
    recency (uses ++ [p]) = touch p (recency uses) := by
  rw [recency, List.foldl_append]
  rfl

theorem nodup_recency (uses : List κ) : (recency uses).Nodup := by
  induction uses using List.reverseRecOn with
  | nil => exact List.nodup_nil
  | append_singleton uses p ih =>
    rw [recency_append]
    exact nodup_touch ih

theorem mem_recency : p ∈ recency uses ↔ p ∈ uses := by
  induction uses using List.reverseRecOn with
  | nil => rfl
  | append_singleton uses q ih =>
    rw [recency_append, mem_touch (nodup_recency uses), ih, List.mem_append, List.mem_singleton,
      or_comm]

/-- LRU is a stack policy: who keeps the last `n` pages need not know of any other. -/
theorem rtake_touch (h : l.Nodup) (n : ℕ) (p : κ) :
    (touch p (l.rtake n)).rtake n = (touch p l).rtake n := by
  have hsplit : l.take (l.length - n) ++ l.rtake n = l := List.take_append_drop _ _
  have hfront : n ≤ (l.rtake n).length ∨ l.take (l.length - n) = [] := by
    rcases Nat.le_total n l.length with hn | hn
    · exact Or.inl (by rw [length_rtake, Nat.min_eq_left hn])
    · exact Or.inr (by rw [Nat.sub_eq_zero_of_le hn, List.take_zero])
  generalize l.rtake n = back at hsplit hfront ⊢
  generalize l.take (l.length - n) = front at hsplit hfront
  subst hsplit
  have htouch : ∃ front', touch p (front ++ back) = front' ++ touch p back ∧
      (front = [] → front' = []) := by
    by_cases hp : p ∈ back
    · have hno : p ∉ front := fun hf => List.disjoint_of_nodup_append h hf hp
      refine ⟨front, ?_, id⟩
      rw [touch, List.erase_append_right _ hno, List.append_assoc, touch]
    · refine ⟨front.erase p, ?_, fun hno => by rw [hno, List.erase_nil]⟩
      rw [touch, touch_of_not_mem hp, ← List.append_assoc, List.erase_append]
      split
      · rfl
      · next hno => rw [List.erase_of_not_mem hp, List.erase_of_not_mem hno]
  obtain ⟨front', hfront', hnil⟩ := htouch
  rw [hfront']
  rcases hfront with hn | hno
  · refine (rtake_append_of_le (hn.trans ?_)).symm
    by_cases hp : p ∈ back
    · rw [length_touch_of_mem hp]
    · rw [touch_of_not_mem hp, List.length_append]
      exact Nat.le_add_right _ _
  · rw [hnil hno, List.nil_append]

end Stack

section Rotation

variable {n hand i j : ℕ}

/-- How many of `n` places a hand passes before it comes to the place `i`. -/
def turn (n hand i : ℕ) : ℕ := if hand ≤ i then i - hand else i + n - hand

def nextPlace (n hand : ℕ) : ℕ := if n < hand + 1 + 1 then 0 else hand + 1

theorem nextPlace_lt (hhand : hand < n) : nextPlace n hand < n := by
  unfold nextPlace
  split <;> omega

theorem turn_self : turn n hand hand = 0 := by
  rw [turn, if_pos le_rfl, Nat.sub_self]

theorem turn_nextPlace (hhand : hand < n) (hi : i < n) (hne : i ≠ hand) :
    turn n (nextPlace n hand) i + 1 = turn n hand i := by
  unfold turn nextPlace
  split_ifs <;> omega

theorem turn_nextPlace_self (hhand : hand < n) : turn n (nextPlace n hand) hand + 1 = n := by
  unfold turn nextPlace
  split_ifs <;> omega

theorem turn_lt (hhand : hand < n) (hi : i < n) : turn n hand i < n := by
  unfold turn
  split <;> omega

theorem turn_nextPlace_lt (hhand : hand < n) (hi : i < n) (hne : i ≠ hand) :
    turn n (nextPlace n hand) i < turn n (nextPlace n hand) hand := by
  have hpassed := turn_nextPlace_self hhand
  have hnear := turn_nextPlace hhand hi hne
  have hlt := turn_lt hhand hi
  omega

end Rotation

section Clock

variable [DecidableEq κ] (dirty : κ → Bool)

/-- One sweep of the hand over `ps`, whose first page has position `j`: stop at the
first unused page whose dirty bit is `wanted`. A clearing sweep takes the use bit
from the pages it passes. -/
def sweep (wanted clears : Bool) :
    List κ → ℕ → (κ → Bool) → Option (κ × ℕ) × (κ → Bool)
  | [], _, used => (none, used)
  | p :: ps, j, used =>
    if used p = false ∧ dirty p = wanted then (some (p, j), used)
    else sweep wanted clears ps (j + 1) (if clears then Function.update used p false else used)

/-- Sweeps given by their wanted dirty bit and whether they clear, one after another. -/
def search (ps : List κ) (j : ℕ) :
    List (Bool × Bool) → (κ → Bool) → Option (κ × ℕ) × (κ → Bool)
  | [], used => (none, used)
  | (wanted, clears) :: rest, used =>
    match sweep dirty wanted clears ps j used with
    | (some r, used) => (some r, used)
    | (none, used) => search ps j rest used

variable {dirty}

theorem sweep_mem {wanted clears : Bool} {ps : List κ} {j : ℕ} {used used' : κ → Bool} {v : κ}
    {i : ℕ} (h : sweep dirty wanted clears ps j used = (some (v, i), used')) :
    v ∈ ps ∧ i < j + ps.length ∧ dirty v = wanted := by
  induction ps generalizing j used with
  | nil => simp [sweep] at h
  | cons p ps ih =>
    rw [sweep] at h
    split at h
    · next hp =>
      obtain ⟨⟨rfl, rfl⟩, rfl⟩ : (p = v ∧ j = i) ∧ used = used' := by simpa using h
      exact ⟨by simp, by simp, hp.2⟩
    · obtain ⟨hv, hi, hd⟩ := ih h
      exact ⟨by simp [hv], by simp only [List.length_cons]; omega, hd⟩

theorem search_mem {ps : List κ} {j : ℕ} {passes : List (Bool × Bool)} {used used' : κ → Bool}
    {v : κ} {i : ℕ} (h : search dirty ps j passes used = (some (v, i), used')) :
    v ∈ ps ∧ i < j + ps.length := by
  induction passes generalizing used with
  | nil => simp [search] at h
  | cons pass rest ih =>
    obtain ⟨wanted, clears⟩ := pass
    rw [search] at h
    split at h
    · next r u heq =>
      obtain ⟨rfl, rfl⟩ : r = (v, i) ∧ u = used' := by simpa using h
      exact ⟨(sweep_mem heq).1, (sweep_mem heq).2.1⟩
    · exact ih h

theorem sweep_congr {dirty' : κ → Bool} (wanted clears : Bool) {ps : List κ} {A : κ → Prop}
    (hA : ∀ p ∈ ps, A p) (hdirty : ∀ p, A p → dirty p = dirty' p) (j : ℕ) {used used' : κ → Bool}
    (hused : ∀ p, A p → used p = used' p) :
    (sweep dirty wanted clears ps j used).1 = (sweep dirty' wanted clears ps j used').1 ∧
      ∀ p, A p → (sweep dirty wanted clears ps j used).2 p =
        (sweep dirty' wanted clears ps j used').2 p := by
  induction ps generalizing j used used' with
  | nil => exact ⟨rfl, hused⟩
  | cons p ps ih =>
    have hp : A p := hA p (by simp)
    simp only [sweep, hused p hp, hdirty p hp]
    split
    · exact ⟨rfl, hused⟩
    · refine ih (fun q hq => hA q (by simp [hq])) (j + 1) fun q hq => ?_
      split
      · by_cases hqp : q = p
        · simp [hqp]
        · simpa [Function.update_of_ne hqp] using hused q hq
      · exact hused q hq

theorem search_congr {dirty' : κ → Bool} {ps : List κ} {A : κ → Prop} (hA : ∀ p ∈ ps, A p)
    (hdirty : ∀ p, A p → dirty p = dirty' p) (j : ℕ) (passes : List (Bool × Bool))
    {used used' : κ → Bool} (hused : ∀ p, A p → used p = used' p) :
    (search dirty ps j passes used).1 = (search dirty' ps j passes used').1 ∧
      ∀ p, A p → (search dirty ps j passes used).2 p = (search dirty' ps j passes used').2 p := by
  induction passes generalizing used used' with
  | nil => exact ⟨rfl, hused⟩
  | cons pass rest ih =>
    obtain ⟨wanted, clears⟩ := pass
    obtain ⟨hfst, hsnd⟩ := sweep_congr wanted clears hA hdirty j hused
    simp only [search]
    split <;> rename_i heq <;> rw [heq] at hfst hsnd <;> split <;> rename_i heq' <;>
      rw [heq'] at hfst hsnd
    · exact ⟨hfst, hsnd⟩
    · simp at hfst
    · simp at hfst
    · exact ih hsnd

theorem sweep_other {wanted clears : Bool} {ps : List κ} {j : ℕ} {used : κ → Bool} {q : κ}
    (hq : q ∉ ps) : (sweep dirty wanted clears ps j used).2 q = used q := by
  induction ps generalizing j used with
  | nil => rfl
  | cons p ps ih =>
    have hne : q ≠ p := fun heq => hq (heq ▸ List.mem_cons_self)
    have hps : q ∉ ps := fun hmem => hq (List.mem_cons_of_mem p hmem)
    rw [sweep]
    split
    · rfl
    · rw [ih hps]
      split
      · exact Function.update_of_ne hne _ _
      · rfl

theorem search_other {ps : List κ} {j : ℕ} {passes : List (Bool × Bool)} {used : κ → Bool} {q : κ}
    (hq : q ∉ ps) : (search dirty ps j passes used).2 q = used q := by
  induction passes generalizing used with
  | nil => rfl
  | cons pass rest ih =>
    obtain ⟨wanted, clears⟩ := pass
    have hsweep : (sweep dirty wanted clears ps j used).2 q = used q := sweep_other hq
    rw [search]
    split
    · next heq =>
      rw [heq] at hsweep
      exact hsweep
    · next heq =>
      rw [heq] at hsweep
      exact ih.trans hsweep

theorem sweep_le {wanted clears : Bool} {ps : List κ} {j : ℕ} {used : κ → Bool} {q : κ}
    (hq : used q = false) : (sweep dirty wanted clears ps j used).2 q = false := by
  induction ps generalizing j used with
  | nil => exact hq
  | cons p ps ih =>
    rw [sweep]
    split
    · exact hq
    · refine ih ?_
      split
      · by_cases hqp : q = p
        · simp [hqp]
        · simpa [Function.update_of_ne hqp] using hq
      · exact hq

/-- A clearing sweep that finds nothing has taken every use bit. -/
theorem sweep_clears {wanted : Bool} {ps : List κ} {j : ℕ} {used used' : κ → Bool}
    (h : sweep dirty wanted true ps j used = (none, used')) : ∀ q ∈ ps, used' q = false := by
  induction ps generalizing j used with
  | nil => simp
  | cons p ps ih =>
    rw [sweep] at h
    split at h
    · simp at h
    · intro q hq
      rcases List.mem_cons.1 hq with rfl | hq
      · have hcleared : (sweep dirty wanted true ps (j + 1)
            (Function.update used q false)).2 q = false := sweep_le (by simp)
        rw [if_pos rfl] at h
        rw [h] at hcleared
        exact hcleared
      · exact ih h q hq

theorem sweep_keeps {wanted : Bool} {ps : List κ} {j : ℕ} {used : κ → Bool} :
    (sweep dirty wanted false ps j used).2 = used := by
  induction ps generalizing j with
  | nil => rfl
  | cons p ps ih =>
    rw [sweep]
    split
    · rfl
    · exact ih

theorem sweep_none {wanted clears : Bool} {ps : List κ} {j : ℕ} {used : κ → Bool}
    (hused : ∀ q ∈ ps, used q = false) (h : (sweep dirty wanted clears ps j used).1 = none) :
    ∀ q ∈ ps, dirty q ≠ wanted := by
  induction ps generalizing j used with
  | nil => simp
  | cons p ps ih =>
    rw [sweep] at h
    split at h
    · simp at h
    · next hp =>
      intro q hq
      rcases List.mem_cons.1 hq with rfl | hq
      · exact fun hd => hp ⟨hused q (by simp), hd⟩
      · refine ih (fun r hr => ?_) h q hq
        have hr' := hused r (List.mem_cons_of_mem p hr)
        split
        · by_cases hrp : r = p
          · simp [hrp]
          · simpa [Function.update_of_ne hrp] using hr'
        · exact hr'

theorem search_isSome {ps : List κ} {j : ℕ} {used : κ → Bool} {first second : Bool × Bool}
    (hps : ps ≠ []) (hsecond : second.2 = true) :
    (search dirty ps j [first, second, (false, false), (true, false)] used).1.isSome := by
  obtain ⟨w₁, c₁⟩ := first
  obtain ⟨w₂, c₂⟩ := second
  obtain rfl : c₂ = true := hsecond
  simp only [search]
  split
  · rfl
  · split
    · rfl
    · next _ u₂ h₂ =>
      have hclear := sweep_clears h₂
      split
      · rfl
      · next _ u₃ h₃ =>
        have hu₃ : u₃ = u₂ := by
          have hkeeps : (sweep dirty false false ps j u₂).2 = u₂ := sweep_keeps
          rw [h₃] at hkeeps
          exact hkeeps
        have hclean := sweep_none hclear (by rw [h₃])
        split
        · rfl
        · next _ u₄ h₄ =>
          have hdirty := sweep_none (hu₃ ▸ hclear) (by rw [h₄])
          obtain ⟨q, hq⟩ := List.exists_mem_of_ne_nil ps hps
          have h₀ := hclean q hq
          have h₁ := hdirty q hq
          cases hd : dirty q <;> simp_all

end Clock

section Rank

variable {dirty used : κ → Bool} {ps : List κ} {p v : κ} {wanted clears : Bool} {j : ℕ}

def rank (used dirty : κ → Bool) (p : κ) : ℕ := 2 * (used p).toNat + (dirty p).toNat

theorem rank_le_three (used dirty : κ → Bool) (p : κ) : rank used dirty p ≤ 3 := by
  unfold rank
  cases used p <;> cases dirty p <;> decide

theorem used_of_rank (h : 2 ≤ rank used dirty p) : used p = true := by
  unfold rank at h
  cases hu : used p with
  | true => rfl
  | false => cases hd : dirty p <;> simp [hu, hd] at h

theorem find_congr {f g : κ → Bool} (h : ∀ q ∈ ps, f q = g q) : ps.find? f = ps.find? g := by
  induction ps with
  | nil => rfl
  | cons p ps ih =>
    rw [List.find?_cons, List.find?_cons, h p List.mem_cons_self,
      ih fun q hq => h q (List.mem_cons_of_mem p hq)]

/-- A sweep that looks for the pages of a class, among pages of no lower class. -/
theorem find_class (hp : p ∈ ps) {f : κ → Bool}
    (hf : ∀ q ∈ ps, f q = true ↔ rank used dirty q = rank used dirty p) {o : Option κ} :
    (ps.find? f).or o = ps.find? fun q => decide (rank used dirty q = rank used dirty p) := by
  have heq : ps.find? f = ps.find? fun q => decide (rank used dirty q = rank used dirty p) := by
    apply find_congr
    intro q hq
    rw [Bool.eq_iff_iff, hf q hq, decide_eq_true_eq]
  rw [heq]
  apply Option.or_of_isSome
  rw [List.find?_isSome]
  exact ⟨p, hp, by simp⟩

theorem find_or_of_none {f : κ → Bool} (hf : ∀ q ∈ ps, f q = false) {o : Option κ} :
    (ps.find? f).or o = o := by
  have hnone : ps.find? f = none := by
    rw [List.find?_eq_none]
    intro q hq
    simp [hf q hq]
  rw [hnone, Option.none_or]

variable [DecidableEq κ]

theorem sweep_eq_find (hnodup : ps.Nodup) :
    (sweep dirty wanted clears ps j used).1.map Prod.fst =
      ps.find? fun p => decide (used p = false ∧ dirty p = wanted) := by
  induction ps generalizing j used with
  | nil => rfl
  | cons p ps ih =>
    obtain ⟨hp, hps⟩ := List.nodup_cons.1 hnodup
    rw [sweep]
    by_cases hstop : used p = false ∧ dirty p = wanted
    · rw [if_pos hstop, List.find?_cons_of_pos (by simpa using hstop)]
      rfl
    · rw [if_neg hstop, List.find?_cons_of_neg (by simpa using hstop), ih hps]
      apply find_congr
      intro q hq
      have hne : q ≠ p := fun h => hp (h ▸ hq)
      cases clears with
      | true => simp [Function.update_of_ne hne]
      | false => rfl

def cleared (ps : List κ) (used : κ → Bool) (q : κ) : Bool := decide (q ∉ ps) && used q

theorem cleared_mem {q : κ} (hq : q ∈ ps) : cleared ps used q = false := by simp [cleared, hq]

theorem sweep_none_snd (h : (sweep dirty wanted clears ps j used).1 = none) :
    (sweep dirty wanted clears ps j used).2 = if clears then cleared ps used else used := by
  cases clears with
  | false => exact sweep_keeps
  | true =>
    funext q
    rw [if_pos rfl]
    by_cases hq : q ∈ ps
    · rw [cleared_mem hq]
      exact sweep_clears (Prod.ext h rfl) q hq
    · rw [sweep_other hq]
      simp [cleared, hq]

theorem search_cons (hnodup : ps.Nodup) {rest : List (Bool × Bool)} :
    (search dirty ps j ((wanted, clears) :: rest) used).1.map Prod.fst =
      (ps.find? fun p => decide (used p = false ∧ dirty p = wanted)).or
        ((search dirty ps j rest (if clears then cleared ps used else used)).1.map Prod.fst) := by
  have hfind : (sweep dirty wanted clears ps j used).1.map Prod.fst =
      ps.find? fun p => decide (used p = false ∧ dirty p = wanted) := sweep_eq_find hnodup
  have hsnd : (sweep dirty wanted clears ps j used).1 = none →
      (sweep dirty wanted clears ps j used).2 = if clears then cleared ps used else used :=
    sweep_none_snd
  rw [search]
  rcases hsweep : sweep dirty wanted clears ps j used with ⟨_ | r, used'⟩
  · rw [hsweep] at hfind hsnd
    rw [← hfind, ← hsnd rfl]
    rfl
  · rw [hsweep] at hfind
    rw [← hfind]
    rfl

/-- The four sweeps find the first page of the lowest class. -/
theorem search_eq_find (hnodup : ps.Nodup) (hp : p ∈ ps)
    (hmin : ∀ q ∈ ps, rank used dirty p ≤ rank used dirty q) (last : Bool) :
    (search dirty ps j [(false, false), (true, true), (false, false), (true, last)] used).1.map
        Prod.fst =
      ps.find? fun q => decide (rank used dirty q = rank used dirty p) := by
  rw [search_cons hnodup, search_cons hnodup, search_cons hnodup, search_cons hnodup]
  simp only [Bool.false_eq_true, if_false, if_true]
  have hclass : ∀ q, rank used dirty q = 2 * (used q).toNat + (dirty q).toNat := fun _ => rfl
  obtain h0 | h1 | h2 | h3 : rank used dirty p = 0 ∨ rank used dirty p = 1 ∨
      rank used dirty p = 2 ∨ rank used dirty p = 3 := by
    have := rank_le_three used dirty p
    omega
  · apply find_class hp
    intro q _
    rw [h0, hclass]
    cases used q <;> cases dirty q <;> simp
  · rw [find_or_of_none]
    · apply find_class hp
      intro q _
      rw [h1, hclass]
      cases used q <;> cases dirty q <;> simp
    · intro q hq
      have := hmin q hq
      rw [h1, hclass] at this
      cases hu : used q <;> cases hd : dirty q <;> simp_all
  · have hused : ∀ q ∈ ps, used q = true := fun q hq => used_of_rank (h2 ▸ hmin q hq)
    rw [find_or_of_none fun q hq => by simp [hused q hq],
      find_or_of_none fun q hq => by simp [hused q hq]]
    apply find_class hp
    intro q hq
    rw [h2, hclass, hused q hq, cleared_mem hq]
    cases dirty q <;> simp
  · have hused : ∀ q ∈ ps, used q = true := fun q hq =>
      used_of_rank ((by omega : 2 ≤ rank used dirty p).trans (hmin q hq))
    have hdirty : ∀ q ∈ ps, dirty q = true := by
      intro q hq
      have := hmin q hq
      rw [h3, hclass, hused q hq] at this
      cases hd : dirty q <;> simp_all
    rw [find_or_of_none fun q hq => by simp [hused q hq],
      find_or_of_none fun q hq => by simp [hused q hq],
      find_or_of_none fun q hq => by simp [hdirty q hq]]
    apply find_class hp
    intro q hq
    rw [h3, hclass, hused q hq, hdirty q hq, cleared_mem hq]
    simp

/-- A scan of the first part of a list finds what the scan of the whole list finds just
when no page of the second part has a lower class than all the pages of the first. -/
theorem search_append_iff {as bs : List κ} (j k : ℕ) (last last' : Bool)
    (hnodup : (as ++ bs).Nodup) (has : as ≠ []) :
    (search dirty as j [(false, false), (true, true), (false, false), (true, last)] used).1.map
        Prod.fst =
      (search dirty (as ++ bs) k [(false, false), (true, true), (false, false), (true, last')]
        used).1.map Prod.fst ↔
      ∀ b ∈ bs, ∃ a ∈ as, rank used dirty a ≤ rank used dirty b := by
  obtain ⟨a, ha, hamin⟩ := as.toFinset.exists_min_image (rank used dirty) (by simpa using has)
  simp only [List.mem_toFinset] at ha hamin
  rw [search_eq_find (List.nodup_append.1 hnodup).1 ha hamin]
  constructor
  · intro heq b hb
    by_contra hlower
    push Not at hlower
    obtain ⟨m, hm, hmin⟩ := (as ++ bs).toFinset.exists_min_image (rank used dirty) ⟨b, by simp [hb]⟩
    simp only [List.mem_toFinset] at hm hmin
    rw [search_eq_find hnodup hm hmin] at heq
    have hsome : (as.find? fun q => decide (rank used dirty q = rank used dirty a)).isSome := by
      rw [List.find?_isSome]
      exact ⟨a, ha, by simp⟩
    obtain ⟨v, hv⟩ := Option.isSome_iff_exists.1 hsome
    have hva : rank used dirty v = rank used dirty a := by simpa using List.find?_some hv
    have hvm : rank used dirty v = rank used dirty m := by
      rw [hv] at heq
      simpa using List.find?_some heq.symm
    have := hlower a ha
    have := hmin b (by simp [hb])
    omega
  · intro hlow
    have hmin : ∀ q ∈ as ++ bs, rank used dirty a ≤ rank used dirty q := by
      intro q hq
      rcases List.mem_append.1 hq with hq | hq
      · exact hamin q hq
      · obtain ⟨c, hc, hcq⟩ := hlow q hq
        exact (hamin c hc).trans hcq
    rw [search_eq_find hnodup (List.mem_append_left bs ha) hmin, List.find?_append]
    symm
    apply Option.or_of_isSome
    rw [List.find?_isSome]
    exact ⟨a, ha, by simp⟩

end Rank

end Carpinchos.Replacement
