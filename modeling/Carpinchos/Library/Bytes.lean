import Mathlib.Tactic

/-!
# Byte memories divided into blocks

A byte memory is a total function from addresses to bytes. `copy` overwrites a
stretch of it and `slice` reads one back. Memories that are used as a sequence
of equal blocks need one more fact: two blocks share no address.
-/

namespace Carpinchos.Bytes

abbrev Mem := ℕ → UInt8

/-- Overwrite the bytes from address `a` on with `bs`. -/
def copy (mem : Mem) (a : ℕ) (bs : List UInt8) : Mem :=
  fun i => if a ≤ i then (bs[i - a]?).getD (mem i) else mem i

def fill (mem : Mem) (a n : ℕ) (b : UInt8) : Mem := copy mem a (List.replicate n b)

/-- The `n` bytes from address `a` on. -/
def slice (mem : Mem) (a n : ℕ) : List UInt8 := (List.range n).map fun o => mem (a + o)

theorem copy_inside (mem : Mem) (a : ℕ) (bs : List UInt8) {o : ℕ} (ho : o < bs.length) :
    copy mem a bs (a + o) = bs[o] := by
  simp [copy, ho]

theorem copy_outside (mem : Mem) (a : ℕ) (bs : List UInt8) {i : ℕ}
    (hi : i < a ∨ a + bs.length ≤ i) : copy mem a bs i = mem i := by
  unfold copy
  split
  · next h =>
    have : bs.length ≤ i - a := by omega
    rw [List.getElem?_eq_none this, Option.getD_none]
  · rfl

theorem copy_shift {mem mem' : Mem} {a : ℕ} (off : ℕ) (bs : List UInt8) {o : ℕ}
    (h : mem (a + o) = mem' o) : copy mem (a + off) bs (a + o) = copy mem' off bs o := by
  unfold copy
  simp only [Nat.add_le_add_iff_left, Nat.add_sub_add_left, h]

theorem fill_inside (mem : Mem) (a : ℕ) (b : UInt8) {n o : ℕ} (ho : o < n) :
    fill mem a n b (a + o) = b := by
  rw [fill, copy_inside _ _ _ (by simpa using ho), List.getElem_replicate]

@[simp] theorem length_slice (mem : Mem) (a n : ℕ) : (slice mem a n).length = n := by
  simp [slice]

@[simp] theorem getElem_slice (mem : Mem) (a n o : ℕ) (ho : o < (slice mem a n).length) :
    (slice mem a n)[o] = mem (a + o) := by
  simp [slice]

theorem slice_congr {mem mem' : Mem} {a a' n : ℕ}
    (h : ∀ o, o < n → mem (a + o) = mem' (a' + o)) : slice mem a n = slice mem' a' n := by
  refine List.ext_getElem (by simp) fun o ho _ => ?_
  rw [getElem_slice, getElem_slice]
  exact h o (by simpa using ho)

theorem copy_append (mem : Mem) (a : ℕ) (bs cs : List UInt8) :
    copy mem a (bs ++ cs) = copy (copy mem a bs) (a + bs.length) cs := by
  funext i
  rcases Nat.lt_or_ge i a with hia | hia
  · rw [copy_outside _ _ _ (Or.inl hia), copy_outside _ _ _ (Or.inl (by omega)),
      copy_outside _ _ _ (Or.inl hia)]
  · obtain ⟨o, rfl⟩ := Nat.exists_eq_add_of_le hia
    rcases Nat.lt_or_ge o bs.length with ho | ho
    · rw [copy_inside _ _ _ (by rw [List.length_append]; omega), List.getElem_append_left ho,
        copy_outside _ _ _ (Or.inl (by omega)), copy_inside _ _ _ ho]
    · obtain ⟨j, rfl⟩ := Nat.exists_eq_add_of_le ho
      unfold copy
      simp only [Nat.le_add_right, if_true, Nat.add_sub_cancel_left, ← Nat.add_assoc]
      rw [Nat.add_assoc a, Nat.add_sub_cancel_left, List.getElem?_append_right (by omega),
        Nat.add_sub_cancel_left, List.getElem?_eq_none (by omega : bs.length ≤ bs.length + j),
        Option.getD_none, if_pos (Nat.le_add_right a _), if_pos (Nat.le_add_right a _)]

theorem slice_add (mem : Mem) (a m n : ℕ) :
    slice mem a (m + n) = slice mem a m ++ slice mem (a + m) n := by
  simp only [slice, List.range_add, List.map_append, List.map_map, Function.comp_def,
    Nat.add_assoc]

section Blocks

variable {P : ℕ}

theorem block_ne {k k' o o' : ℕ} (hk : k ≠ k') (ho : o < P) (ho' : o' < P) :
    k * P + o ≠ k' * P + o' := by
  intro h
  have hP : 0 < P := by omega
  have hdiv : (k * P + o) / P = (k' * P + o') / P := by rw [h]
  rw [Nat.mul_comm k, Nat.mul_comm k', Nat.mul_add_div hP, Nat.mul_add_div hP,
    Nat.div_eq_of_lt ho, Nat.div_eq_of_lt ho'] at hdiv
  exact hk (by simpa using hdiv)

/-- A copy inside one block leaves the other blocks alone. -/
theorem copy_block_other (mem : Mem) (off : ℕ) (bs : List UInt8) {k k' o : ℕ} (hk : k ≠ k')
    (hbs : off + bs.length ≤ P) (ho : o < P) :
    copy mem (k' * P + off) bs (k * P + o) = mem (k * P + o) := by
  refine copy_outside _ _ _ ?_
  by_contra hcon
  obtain ⟨d, hd⟩ : ∃ d, k * P + o = k' * P + (off + d) := ⟨k * P + o - (k' * P + off), by omega⟩
  exact block_ne hk ho (by omega) hd

theorem fill_block_other (mem : Mem) {k k' o : ℕ} (b : UInt8) (hk : k ≠ k') (ho : o < P) :
    fill mem (k' * P) P b (k * P + o) = mem (k * P + o) := by
  have h := copy_block_other mem 0 (List.replicate P b) hk (by simp) ho
  simpa [fill] using h

end Blocks

section Scatter

variable {f : ℕ → ℕ} {g : ℕ → UInt8} {buffer : List UInt8}

/-- Put the bytes `g 0`, …, `g (n - 1)` into a buffer in order, each at its place `f i`. -/
def scatter (f : ℕ → ℕ) (g : ℕ → UInt8) (n : ℕ) (buffer : List UInt8) : List UInt8 :=
  (List.range n).foldl (fun b i => b.set (f i) (g i)) buffer

def lastAt (f : ℕ → ℕ) (n j : ℕ) : Option ℕ := (List.range n).reverse.find? fun i => f i = j

theorem scatter_succ (n : ℕ) :
    scatter f g (n + 1) buffer = (scatter f g n buffer).set (f n) (g n) := by
  simp [scatter, List.range_succ]

theorem lastAt_succ (n j : ℕ) :
    lastAt f (n + 1) j = if f n = j then some n else lastAt f n j := by
  rw [lastAt, List.range_succ, List.reverse_append, List.reverse_singleton, List.singleton_append,
    List.find?_cons]
  by_cases h : f n = j <;> simp [h, lastAt]

@[simp] theorem length_scatter (f : ℕ → ℕ) (g : ℕ → UInt8) (n : ℕ) (buffer : List UInt8) :
    (scatter f g n buffer).length = buffer.length := by
  induction n with
  | zero => rfl
  | succ n ih => rw [scatter_succ, List.length_set, ih]

/-- A place holds the last byte that was put there. -/
theorem getElem?_scatter (n : ℕ) {j : ℕ} (hj : j < buffer.length) :
    (scatter f g n buffer)[j]? = ((lastAt f n j).map g).or buffer[j]? := by
  induction n with
  | zero => rfl
  | succ n ih =>
    rw [scatter_succ, lastAt_succ, List.getElem?_set, length_scatter]
    by_cases h : f n = j
    · simp [h, hj]
    · simp [h, ih]

theorem scatter_add (m n : ℕ) :
    scatter f g (m + n) buffer =
      scatter (fun i => f (m + i)) (fun i => g (m + i)) n (scatter f g m buffer) := by
  rw [scatter, List.range_add, List.foldl_append, List.foldl_map]
  rfl

theorem scatter_congr {f' : ℕ → ℕ} {g' : ℕ → UInt8} {n : ℕ} (hf : ∀ i, i < n → f i = f' i)
    (hg : ∀ i, i < n → g i = g' i) : scatter f g n buffer = scatter f' g' n buffer := by
  induction n with
  | zero => rfl
  | succ n ih =>
    rw [scatter_succ, scatter_succ, hf n n.lt_succ_self, hg n n.lt_succ_self,
      ih (fun i hi => hf i (by omega)) fun i hi => hg i (by omega)]

theorem splice_eq_scatter {a : ℕ} {bs : List UInt8} (h : a + bs.length ≤ buffer.length)
    (hg : ∀ i (hi : i < bs.length), g i = bs[i]) :
    buffer.take a ++ bs ++ buffer.drop (a + bs.length) =
      scatter (fun i => a + i) g bs.length buffer := by
  induction bs using List.reverseRecOn with
  | nil => simp [scatter]
  | append_singleton bs b ih =>
    rw [List.length_append, List.length_singleton] at h ⊢
    rw [scatter_succ, ← ih (by omega) fun i hi => ?_]
    · have hlt : a + bs.length < buffer.length := by omega
      have hlen : (buffer.take a ++ bs).length = a + bs.length := by
        rw [List.length_append, List.length_take, Nat.min_eq_left (by omega)]
      have hb : g bs.length = b := by rw [hg bs.length (by simp), List.getElem_concat_length rfl]
      rw [List.drop_eq_getElem_cons hlt, List.set_append_right _ _ hlen.le, hlen, Nat.sub_self,
        List.set_cons_zero, hb, Nat.add_assoc]
      simp
    · rw [hg i (by simp; omega)]
      exact List.getElem_append_left hi

end Scatter

end Carpinchos.Bytes
