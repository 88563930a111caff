/-
The huge-page constants of `kvm_host.h` with the integer widths of the Windows build.

`UL` literals are 32 bits wide there, and a 32-bit x86 shift takes its count modulo 32, so
`KVM_HPAGE_SIZE(x)`, which is `1UL << KVM_HPAGE_SHIFT(x)`, is a page size only up to level 3:
at level 4 the shift by 39 is a shift by 7, at level 5 the shift by 48 is a shift by 16.
`-KVM_PAGES_PER_HPAGE(x)` is a 32-bit negation, zero-extended when it meets a 64-bit `gfn`.

`Hpage` packs the two numbers the page-table walkers take from these macros. `winHpage` is what
the Windows build computes; `exactHpage` is `512^(level-1)` and its 64-bit negation.
-/
import Mathlib.Data.Nat.Bitwise
import Mathlib.Tactic.Common

set_option autoImplicit false

namespace Svmx

def PAGE_SHIFT : ℕ := 12
def PAGE_SIZE : ℕ := 4096

def PG_LEVEL_4K : ℕ := 1
def PG_LEVEL_2M : ℕ := 2
def PG_LEVEL_1G : ℕ := 3

/-- `KVM_HPAGE_GFN_SHIFT(x)`. -/
def KVM_HPAGE_GFN_SHIFT (level : ℕ) : ℕ := (level - 1) * 9

/-- `KVM_HPAGE_SHIFT(x)`. -/
def KVM_HPAGE_SHIFT (level : ℕ) : ℕ := PAGE_SHIFT + KVM_HPAGE_GFN_SHIFT level

/-- `KVM_HPAGE_SIZE(x)`: a 32-bit shift, its count taken modulo 32. -/
def KVM_HPAGE_SIZE (level : ℕ) : ℕ := 2 ^ (KVM_HPAGE_SHIFT level % 32)

/-- `KVM_PAGES_PER_HPAGE(x)`. -/
def KVM_PAGES_PER_HPAGE (level : ℕ) : ℕ := KVM_HPAGE_SIZE level / PAGE_SIZE

/-- What a walker takes from the huge-page macros: the number of base pages an entry covers and
the mask `-KVM_PAGES_PER_HPAGE(level)` as it meets a 64-bit `gfn`. -/
structure Hpage where
  pages : ℕ → ℕ
  mask : ℕ → ℕ

/-- The Windows build. -/
def winHpage : Hpage where
  pages := KVM_PAGES_PER_HPAGE
  mask level := (2 ^ 32 - KVM_PAGES_PER_HPAGE level) % 2 ^ 32

/-- The macros read as exact numbers. -/
def exactHpage : Hpage where
  pages level := 512 ^ (level - 1)
  mask level := 2 ^ 64 - 512 ^ (level - 1)

/-- `gfn_round_for_level`. -/
def gfn_round_for_level (hp : Hpage) (gfn level : ℕ) : ℕ := gfn &&& hp.mask level

/-- `gfn_to_index` of `mmu.h`. -/
def gfn_to_index (gfn base_gfn level : ℕ) : ℕ :=
  gfn / 2 ^ KVM_HPAGE_GFN_SHIFT level - base_gfn / 2 ^ KVM_HPAGE_GFN_SHIFT level

/-- Clearing the low `k` bits of a word below `2^w`. -/
theorem and_high_mask (w k n : ℕ) (hk : k ≤ w) :
    n &&& (2 ^ w - 2 ^ k) = n % 2 ^ w / 2 ^ k * 2 ^ k := by
  apply Nat.eq_of_testBit_eq
  intro i
  have hmask : 2 ^ w - 2 ^ k = (2 ^ (w - k) - 1) <<< k := by
    rw [Nat.shiftLeft_eq, Nat.sub_mul, Nat.one_mul, ← Nat.pow_add, Nat.sub_add_cancel hk]
  rw [hmask, Nat.testBit_and, Nat.testBit_shiftLeft, Nat.testBit_two_pow_sub_one,
    Nat.testBit_mul_two_pow, Nat.testBit_div_two_pow, Nat.testBit_mod_two_pow]
  by_cases hi : k ≤ i
  · have h2 : (i - k < w - k) ↔ i < w := by omega
    simp only [hi, h2, decide_true, Bool.true_and, Nat.sub_add_cancel hi]
    rw [Bool.and_comm]
  · simp [hi]

/-- Putting the bits from `b` to `a` back into a word whose low `a` bits were cleared. -/
theorem restore_bits (n : ℕ) {a b : ℕ} (hab : b ≤ a) :
    n / 2 ^ a * 2 ^ a ||| n % 2 ^ a / 2 ^ b * 2 ^ b = n / 2 ^ b * 2 ^ b := by
  apply Nat.eq_of_testBit_eq
  intro i
  simp only [Nat.testBit_or, Nat.testBit_mul_two_pow, Nat.testBit_div_two_pow,
    Nat.testBit_mod_two_pow]
  by_cases ha : a ≤ i
  · have hb : b ≤ i := by omega
    have h : ¬ i < a := by omega
    simp only [ha, hb, h, Nat.sub_add_cancel, decide_true, decide_false, Bool.true_and,
      Bool.false_and, Bool.and_false, Bool.or_false]
  · by_cases hb : b ≤ i
    · have h : i < a := by omega
      simp only [ha, hb, h, Nat.sub_add_cancel, decide_true, decide_false, Bool.true_and,
        Bool.false_and, Bool.false_or]
    · simp only [ha, hb, decide_false, Bool.false_and, Bool.or_self]

end Svmx
