/-
Values packed into a word.

`put` brings the low bits of a value to their place in a word and `take` reads the bits of a place
back. What is taken from an OR of values at places that do not overlap is the value at that place.
-/
import Mathlib.Data.BitVec
import Mathlib.Data.Nat.Bitwise

set_option autoImplicit false

namespace BitFields

variable {w n : ℕ}

/-- The word whose `len` low bits are set. -/
def low (w len : ℕ) : BitVec w := BitVec.ofNat w (2 ^ len - 1)

/-- The `len` low bits of a value, from bit `off` of a word of `w` bits on. -/
def put (w off len : ℕ) (v : BitVec n) : BitVec w := ((v &&& low n len).zeroExtend w) <<< off

/-- The `len` bits of a word from bit `off` on, as a value of `n` bits. -/
def take (n off len : ℕ) (x : BitVec w) : BitVec n := ((x >>> off) &&& low w len).truncate n

/-- The value needs no more than `len` bits. -/
def Fits (len : ℕ) (v : BitVec n) : Prop := ∀ i, len ≤ i → v.getLsbD i = false

theorem getLsbD_low (w len i : ℕ) : (low w len).getLsbD i = (decide (i < w) && decide (i < len)) := by
  rw [low, BitVec.getLsbD_ofNat, Nat.testBit_two_pow_sub_one]

theorem getLsbD_put (off len : ℕ) (v : BitVec n) (i : ℕ) : (put w off len v).getLsbD i =
    (decide (i < w) && decide (off ≤ i) && decide (i - off < len) && v.getLsbD (i - off)) := by
  unfold put
  rw [BitVec.getLsbD_shiftLeft, BitVec.getLsbD_setWidth, BitVec.getLsbD_and, getLsbD_low]
  by_cases hn : i - off < n
  · by_cases hw : i < w
    · have hw' : i - off < w := by omega
      by_cases hoff : off ≤ i
      · simp [hn, hw, hw', hoff, Bool.and_comm]
      · simp [hoff]
    · simp [hw]
  · simp [BitVec.getLsbD_of_ge v (i - off) (by omega)]

theorem getLsbD_take (off len : ℕ) (x : BitVec w) (i : ℕ) : (take n off len x).getLsbD i =
    (decide (i < n) && decide (i < len) && x.getLsbD (off + i)) := by
  unfold take
  rw [BitVec.getLsbD_setWidth, BitVec.getLsbD_and, BitVec.getLsbD_ushiftRight, getLsbD_low]
  by_cases hw : i < w
  · rw [decide_eq_true hw, Bool.true_and, Bool.and_comm (x.getLsbD _), Bool.and_assoc]
  · simp [BitVec.getLsbD_of_ge x (off + i) (by omega)]

/-- The place at the bottom of a word needs no shift. -/
theorem take_bottom (len : ℕ) (x : BitVec w) :
    take n 0 len x = (x &&& low w len).truncate n := by
  rw [take, BitVec.ushiftRight_zero]

theorem take_or (off len : ℕ) (x y : BitVec w) :
    take n off len (x ||| y) = take n off len x ||| take n off len y := by
  apply BitVec.eq_of_getLsbD_eq
  intro i _
  simp only [getLsbD_take, BitVec.getLsbD_or, Bool.and_or_distrib_left]

/-- A value that fits is read back from its place. -/
theorem take_put {off len : ℕ} {v : BitVec n} (hfits : Fits len v) (hw : off + len ≤ w) :
    take n off len (put w off len v) = v := by
  apply BitVec.eq_of_getLsbD_eq
  intro i hi
  rw [getLsbD_take, getLsbD_put]
  by_cases hlen : i < len
  · have hin : off + i < w := by omega
    simp [hi, hlen, hin]
  · simp [hlen, hfits i (by omega)]

/-- Another place has nothing of it. -/
theorem take_put_apart {off len off' len' : ℕ} {m : ℕ} (v : BitVec m)
    (h : off + len ≤ off' ∨ off' + len' ≤ off) :
    take n off len (put w off' len' v) = 0#n := by
  apply BitVec.eq_of_getLsbD_eq
  intro i hi
  rw [getLsbD_take, getLsbD_put, BitVec.getLsbD_zero]
  rcases h with h | h
  · by_cases hlen : i < len
    · have hoff : ¬ off' ≤ off + i := by omega
      simp [hoff]
    · simp [hlen]
  · have hlen : ¬ off + i - off' < len' := by omega
    simp [hlen]

theorem fits_of_lt {len : ℕ} {v : BitVec n} (h : v.toNat < 2 ^ len) : Fits len v := by
  intro i hi
  rw [BitVec.getLsbD, Nat.testBit_lt_two_pow]
  exact Nat.lt_of_lt_of_le h (Nat.pow_le_pow_right (by omega) hi)

end BitFields
