import Mathlib.Tactic

/-!
# Blocks that tile an interval

A list of records, each of which stands for an interval of addresses, tiles an interval when
the first block begins where it does and every other one where its neighbour ends. The rules
are for a block in the middle of the list: it may be split, joined with its free neighbours or
taken out, and the blocks on both sides are not looked into.
-/

namespace Carpinchos.Tiling

universe u
variable {α : Type u}

/-- How a record stands for a block: its first address, its length, and whether it is free. -/
structure Blocks (α : Type u) where
  start : α → ℕ
  size : α → ℕ
  free : α → Bool

namespace Blocks

section Definitions

variable (B : Blocks α)

def stop (b : α) : ℕ := B.start b + B.size b

/-- The blocks lie one after the other from `lo` to `hi`. -/
def Tiles : ℕ → List α → ℕ → Prop
  | lo, [], hi => lo = hi
  | lo, b :: bs, hi => B.start b = lo ∧ Tiles (lo + B.size b) bs hi

def total (bs : List α) : ℕ := (bs.map B.size).sum

/-- No two neighbours are free. -/
def Coalesced (bs : List α) : Prop := bs.IsChain fun a b => B.free a = true → B.free b = false

def used (bs : List α) : List α := bs.filter fun b => !B.free b

/-- Freeing `a` between `xs` and `ys`: the block `b` takes it and its free neighbours, and the
other blocks are those of `xs'` and `ys'`. -/
structure Release (xs : List α) (a : α) (ys xs' : List α) (b : α) (ys' : List α) : Prop where
  free : B.free b = true
  left : (xs' = xs ∧ B.start b = B.start a ∧ ∀ p ∈ xs.getLast?, B.free p = false) ∨
    ∃ p, xs = xs' ++ [p] ∧ B.free p = true ∧ B.start b = B.start p
  right : (ys' = ys ∧ B.stop b = B.stop a ∧ ∀ n ∈ ys.head?, B.free n = false) ∨
    ∃ n, ys = n :: ys' ∧ B.free n = true ∧ B.stop b = B.stop n

end Definitions

variable {B : Blocks α} {lo hi d x : ℕ} {a b c : α} {bs xs ys xs' ys' : List α}

section Tiles

theorem tiles_append : B.Tiles lo (xs ++ ys) hi ↔ ∃ m, B.Tiles lo xs m ∧ B.Tiles m ys hi := by
  induction xs generalizing lo with
  | nil =>
    constructor
    · intro h
      exact ⟨lo, rfl, h⟩
    · rintro ⟨m, rfl, h⟩
      exact h
  | cons b xs ih =>
    simp only [List.cons_append, Tiles, ih]
    constructor
    · rintro ⟨hb, m, hxs, hys⟩
      exact ⟨m, ⟨hb, hxs⟩, hys⟩
    · rintro ⟨m, ⟨hb, hxs⟩, hys⟩
      exact ⟨hb, m, hxs, hys⟩

theorem tiles_middle :
    B.Tiles lo (xs ++ b :: ys) hi ↔ B.Tiles lo xs (B.start b) ∧ B.Tiles (B.stop b) ys hi := by
  rw [tiles_append]
  constructor
  · rintro ⟨m, hxs, rfl, hys⟩
    exact ⟨hxs, hys⟩
  · rintro ⟨hxs, hys⟩
    exact ⟨_, hxs, rfl, hys⟩

theorem tiles_concat : B.Tiles lo (xs ++ [b]) hi ↔ B.Tiles lo xs (B.start b) ∧ B.stop b = hi :=
  tiles_middle

theorem Tiles.replace (h : B.Tiles lo (xs ++ a :: ys) hi) (hstart : B.start b = B.start a)
    (hstop : B.stop b = B.stop a) : B.Tiles lo (xs ++ b :: ys) hi := by
  rw [tiles_middle] at h ⊢
  rwa [hstart, hstop]

theorem Tiles.split (h : B.Tiles lo (xs ++ a :: ys) hi) (hstart : B.start b = B.start a)
    (hcut : B.start c = B.stop b) (hstop : B.stop c = B.stop a) :
    B.Tiles lo (xs ++ b :: c :: ys) hi := by
  rw [tiles_middle] at h ⊢
  rw [hstart]
  refine ⟨h.1, hcut, ?_⟩
  rw [← hcut]
  change B.Tiles (B.stop c) ys hi
  rw [hstop]
  exact h.2

theorem Tiles.le (h : B.Tiles lo bs hi) : lo ≤ hi := by
  induction bs generalizing lo with
  | nil => exact h.le
  | cons b bs ih => exact (Nat.le_add_right _ _).trans (ih h.2)

theorem Tiles.hi_eq (h : B.Tiles lo bs hi) : hi = lo + B.total bs := by
  induction bs generalizing lo with
  | nil => exact h.symm
  | cons b bs ih =>
    have hrest := ih h.2
    simp only [total, List.map_cons, List.sum_cons] at hrest ⊢
    omega

theorem Tiles.bounds (h : B.Tiles lo bs hi) (hb : b ∈ bs) : lo ≤ B.start b ∧ B.stop b ≤ hi := by
  obtain ⟨xs, ys, rfl⟩ := List.append_of_mem hb
  obtain ⟨hxs, hys⟩ := tiles_middle.1 h
  exact ⟨hxs.le, hys.le⟩

/-- Every block ends before the next ones begin. -/
theorem Tiles.pairwise (h : B.Tiles lo bs hi) : bs.Pairwise fun a b => B.stop a ≤ B.start b := by
  induction bs generalizing lo with
  | nil => exact .nil
  | cons a bs ih =>
    obtain ⟨rfl, hbs⟩ := h
    refine .cons (fun b hb => ?_) (ih hbs)
    exact (hbs.bounds hb).1

/-- Of two blocks one ends before the other begins. -/
theorem Tiles.apart (h : B.Tiles lo bs hi) (ha : a ∈ bs) (hb : b ∈ bs) :
    a = b ∨ B.stop a ≤ B.start b ∨ B.stop b ≤ B.start a := by
  have hforward := h.pairwise.imp (S := fun a b => a = b ∨ B.stop a ≤ B.start b ∨
    B.stop b ≤ B.start a) fun hab => Or.inr (Or.inl hab)
  have hbackward := h.pairwise.imp (S := flip fun a b => a = b ∨ B.stop a ≤ B.start b ∨
    B.stop b ≤ B.start a) fun hab => Or.inr (Or.inr hab)
  apply List.Pairwise.forall_of_forall_of_flip (fun c _ => ?_) hforward hbackward ha hb
  exact Or.inl rfl

theorem Tiles.cover (h : B.Tiles lo bs hi) (hlo : lo ≤ x) (hhi : x < hi) :
    ∃ b ∈ bs, B.start b ≤ x ∧ x < B.stop b := by
  induction bs generalizing lo with
  | nil =>
    cases h
    omega
  | cons a bs ih =>
    obtain ⟨rfl, hbs⟩ := h
    by_cases hx : x < B.stop a
    · exact ⟨a, List.mem_cons_self, hlo, hx⟩
    · obtain ⟨b, hb, hin⟩ := ih hbs (not_lt.1 hx)
      exact ⟨b, List.mem_cons_of_mem a hb, hin⟩

theorem Tiles.start_ne (h : B.Tiles lo (xs ++ b :: ys) hi) (ha : a ∈ xs) (hsize : 0 < B.size a) :
    B.start a ≠ B.start b := by
  have hin := ((tiles_middle.1 h).1.bounds ha).2
  unfold stop at hin
  omega

theorem Tiles.shift {f : α → α} (h : B.Tiles lo bs hi) (hd : d ≤ lo)
    (hstart : ∀ b ∈ bs, B.start (f b) = B.start b - d) (hsize : ∀ b ∈ bs, B.size (f b) = B.size b) :
    B.Tiles (lo - d) (bs.map f) (hi - d) := by
  induction bs generalizing lo with
  | nil =>
    cases h
    rfl
  | cons a bs ih =>
    obtain ⟨rfl, hbs⟩ := h
    have hrest := ih hbs (hd.trans (Nat.le_add_right _ _))
      (fun b hb => hstart b (List.mem_cons_of_mem a hb))
      (fun b hb => hsize b (List.mem_cons_of_mem a hb))
    refine ⟨hstart a List.mem_cons_self, ?_⟩
    rw [hsize a List.mem_cons_self]
    rwa [Nat.sub_add_comm hd] at hrest

end Tiles

section Coalesced

theorem Coalesced.tail (h : B.Coalesced (a :: bs)) : B.Coalesced bs := List.IsChain.tail h

theorem coalesced_append : B.Coalesced (xs ++ ys) ↔ B.Coalesced xs ∧ B.Coalesced ys ∧
    ∀ a ∈ xs.getLast?, ∀ b ∈ ys.head?, B.free a = true → B.free b = false :=
  List.isChain_append

theorem coalesced_cons : B.Coalesced (a :: bs) ↔
    (∀ b ∈ bs.head?, B.free a = true → B.free b = false) ∧ B.Coalesced bs :=
  List.isChain_cons

theorem coalesced_middle_of_used (hb : B.free b = false) :
    B.Coalesced (xs ++ b :: ys) ↔ B.Coalesced xs ∧ B.Coalesced ys := by
  simp [coalesced_append, coalesced_cons, hb]

theorem coalesced_middle_of_free (hb : B.free b = true) : B.Coalesced (xs ++ b :: ys) ↔
    (B.Coalesced xs ∧ B.Coalesced ys) ∧ (∀ p ∈ xs.getLast?, B.free p = false) ∧
      ∀ n ∈ ys.head?, B.free n = false := by
  simp only [coalesced_append, coalesced_cons, hb, List.head?_cons, Option.mem_def,
    Option.some.injEq, forall_eq', Bool.true_eq_false, imp_false, forall_const,
    Bool.not_eq_true]
  tauto

theorem Coalesced.map {f : α → α} (h : B.Coalesced bs) (hf : ∀ b, B.free (f b) = B.free b) :
    B.Coalesced (bs.map f) := by
  unfold Coalesced
  rw [List.isChain_map]
  simp only [hf]
  exact h

end Coalesced

section Release

theorem Release.tiles (h : B.Release xs a ys xs' b ys') (ht : B.Tiles lo (xs ++ a :: ys) hi) :
    B.Tiles lo (xs' ++ b :: ys') hi := by
  obtain ⟨hxs, hys⟩ := tiles_middle.1 ht
  apply tiles_middle.2
  constructor
  · rcases h.left with ⟨rfl, hstart, -⟩ | ⟨p, rfl, -, hstart⟩
    · rwa [hstart]
    · rw [hstart]
      exact (tiles_concat.1 hxs).1
  · rcases h.right with ⟨rfl, hstop, -⟩ | ⟨n, rfl, -, hstop⟩
    · rwa [hstop]
    · rw [hstop]
      have hn := hys.1
      have hrest := hys.2
      rwa [← hn] at hrest

theorem Release.coalesced (h : B.Release xs a ys xs' b ys') (ha : B.free a = false)
    (hc : B.Coalesced (xs ++ a :: ys)) : B.Coalesced (xs' ++ b :: ys') := by
  obtain ⟨hxs, hys⟩ := (coalesced_middle_of_used ha).1 hc
  apply (coalesced_middle_of_free h.free).2
  have hleft : B.Coalesced xs' ∧ ∀ p ∈ xs'.getLast?, B.free p = false := by
    rcases h.left with ⟨rfl, -, hlast⟩ | ⟨p, rfl, hp, -⟩
    · exact ⟨hxs, hlast⟩
    · obtain ⟨⟨hxs', -⟩, hlast, -⟩ := (coalesced_middle_of_free hp).1 hxs
      exact ⟨hxs', hlast⟩
  have hright : B.Coalesced ys' ∧ ∀ n ∈ ys'.head?, B.free n = false := by
    rcases h.right with ⟨rfl, -, hhead⟩ | ⟨n, rfl, hn, -⟩
    · exact ⟨hys, hhead⟩
    · obtain ⟨hhead, hys'⟩ := coalesced_cons.1 hys
      exact ⟨hys', fun m hm => hhead m hm hn⟩
  exact ⟨⟨hleft.1, hright.1⟩, hleft.2, hright.2⟩

/-- The blocks in use are the others, as they were. -/
theorem Release.used_eq (h : B.Release xs a ys xs' b ys') :
    B.used (xs' ++ b :: ys') = B.used (xs ++ ys) := by
  have hleft : B.used xs' = B.used xs := by
    rcases h.left with ⟨rfl, -, -⟩ | ⟨p, rfl, hp, -⟩
    · rfl
    · simp [used, hp]
  have hright : B.used ys' = B.used ys := by
    rcases h.right with ⟨rfl, -, -⟩ | ⟨n, rfl, hn, -⟩
    · rfl
    · simp [used, hn]
  simp only [used, List.filter_append, List.filter_cons, h.free] at hleft hright ⊢
  simp [hleft, hright]

end Release

section Windows

variable {y : ℕ}

def Overlaps (B : Blocks α) (x y : ℕ) (b : α) : Prop := B.start b < y ∧ x < B.stop b

instance (B : Blocks α) (x y : ℕ) (b : α) : Decidable (B.Overlaps x y b) :=
  inferInstanceAs (Decidable (B.start b < y ∧ x < B.stop b))

/-- After a free block comes one in use. -/
theorem Tiles.next_used (h : B.Tiles lo bs hi) (hc : B.Coalesced bs) (hb : b ∈ bs)
    (hfree : B.free b = true) (hlt : B.stop b < hi) :
    ∃ n ∈ bs, B.start n = B.stop b ∧ B.free n = false := by
  obtain ⟨xs, ys, rfl⟩ := List.append_of_mem hb
  obtain ⟨-, hys⟩ := tiles_middle.1 h
  obtain ⟨-, -, hnext⟩ := (coalesced_middle_of_free hfree).1 hc
  cases ys with
  | nil => exact absurd hys hlt.ne
  | cons n ys => exact ⟨n, by simp, hys.1, hnext n rfl⟩

/-- A window holds free blocks only where one of them fills what is tiled of it. -/
theorem Tiles.only_free_iff (h : B.Tiles lo bs hi) (hc : B.Coalesced bs)
    (hsize : ∀ b ∈ bs, 0 < B.size b) (hlo : lo ≤ x) (hxy : x < y) :
    ((∃ b ∈ bs, B.Overlaps x y b) ∧ ∀ b ∈ bs, B.Overlaps x y b → B.free b = true) ↔
      ∃ b ∈ bs, B.free b = true ∧ B.start b ≤ x ∧ x < B.stop b ∧
        (y ≤ B.stop b ∨ B.stop b = hi) := by
  constructor
  · rintro ⟨⟨a, ha, hax⟩, hfree⟩
    obtain ⟨b, hb, hbx, hxb⟩ := h.cover hlo (hax.2.trans_le (h.bounds ha).2)
    have hbfree := hfree b hb ⟨hbx.trans_lt hxy, hxb⟩
    refine ⟨b, hb, hbfree, hbx, hxb, ?_⟩
    by_contra hno
    push Not at hno
    have hlt : B.stop b < hi := lt_of_le_of_ne (h.bounds hb).2 hno.2
    obtain ⟨n, hn, hstart, hused⟩ := h.next_used hc hb hbfree hlt
    have hover : B.Overlaps x y n := by
      have := hsize n hn
      constructor
      · omega
      · unfold stop at hxb ⊢ hstart
        omega
    rw [hfree n hn hover] at hused
    cases hused
  · rintro ⟨b, hb, hfree, hbx, hxb, hend⟩
    refine ⟨⟨b, hb, hbx.trans_lt hxy, hxb⟩, fun a ha hover => ?_⟩
    rcases h.apart ha hb with rfl | hle | hle
    · exact hfree
    · exact absurd hover.2 (not_lt.2 (hle.trans hbx))
    · rcases hend with hend | hend
      · exact absurd hover.1 (not_lt.2 (hend.trans hle))
      · have hstop := (h.bounds ha).2
        have hpos := hsize a ha
        unfold stop at hstop hend hle
        omega

end Windows

end Blocks

end Carpinchos.Tiling
