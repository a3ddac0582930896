import Mathlib.Tactic

/-!
# Integers on a byte stream

Fixed-width little-endian integers, unsigned and in two's complement, and reads of an
exact number of bytes from the front of a stream.
-/

namespace Carpinchos.Wire

/-- The `w` bytes of `n`, least significant first. Higher bytes are dropped. -/
def encode (w n : ℕ) : List UInt8 :=
  (List.range w).map fun i => UInt8.ofNat (n / 256 ^ i)

def decode (bytes : List UInt8) : ℕ := bytes.foldr (fun b n => b.toNat + 256 * n) 0

@[simp] theorem length_encode (w n : ℕ) : (encode w n).length = w := by
  simp [encode]

theorem encode_succ (w n : ℕ) : encode (w + 1) n = UInt8.ofNat n :: encode w (n / 256) := by
  simp only [encode, List.range_succ_eq_map, List.map_cons, List.map_map, pow_zero, Nat.div_one]
  congr 1
  refine List.map_congr_left fun i _ => ?_
  simp only [Function.comp_apply, Nat.succ_eq_add_one]
  rw [pow_succ', Nat.div_div_eq_div_mul]

theorem decode_encode (w n : ℕ) : decode (encode w n) = n % 256 ^ w := by
  induction w generalizing n with
  | zero => simp [encode, decode, Nat.mod_one]
  | succ w ih =>
    rw [encode_succ]
    calc (UInt8.ofNat n).toNat + 256 * decode (encode w (n / 256))
        = n % 256 + 256 * (n / 256 % 256 ^ w) := by rw [ih, UInt8.toNat_ofNat']
      _ = n % 256 ^ (w + 1) := by rw [pow_succ' 256 w, Nat.mod_mul]

/-- A 32-bit integer in two's complement. -/
def encodeInt32 (x : ℤ) : List UInt8 := encode 4 (x % 2 ^ 32).toNat

def decodeInt32 (bytes : List UInt8) : ℤ :=
  if decode bytes < 2 ^ 31 then decode bytes else decode bytes - 2 ^ 32

@[simp] theorem length_encodeInt32 (x : ℤ) : (encodeInt32 x).length = 4 := length_encode _ _

theorem decodeInt32_encodeInt32 {x : ℤ} (hlo : -2 ^ 31 ≤ x) (hhi : x < 2 ^ 31) :
    decodeInt32 (encodeInt32 x) = x := by
  have hdecode : decode (encodeInt32 x) = (x % 2 ^ 32).toNat := by
    rw [encodeInt32, decode_encode, Nat.mod_eq_of_lt]
    omega
  rw [decodeInt32, hdecode]
  split <;> omega

variable {α β : Type}

/-- Take exactly `n` elements off the front of a stream, if it has them. -/
def takeExact (n : ℕ) (stream : List α) : Option (List α × List α) :=
  if n ≤ stream.length then some (stream.take n, stream.drop n) else none

theorem takeExact_append {n : ℕ} {front rest : List α} (h : front.length = n) :
    takeExact n (front ++ rest) = some (front, rest) := by
  subst h
  simp [takeExact]

theorem takeExact_eq_some {n : ℕ} {stream front rest : List α}
    (h : takeExact n stream = some (front, rest)) :
    stream = front ++ rest ∧ front.length = n := by
  unfold takeExact at h
  split at h
  · next hn =>
    cases h
    exact ⟨(List.take_append_drop _ _).symm, List.length_take_of_le hn⟩
  · cases h

end Carpinchos.Wire
