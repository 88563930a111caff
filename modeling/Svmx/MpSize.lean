/-
The sizes of a hash table: `RoundToPowerOfTwo`, and how many buckets `HashTableInitialize` and
`HashTableChangeTable` set up.

A power of two is returned as it is. Any other value is rounded from its bit length: the result is
the next power of two where the one below is asked for, and the second next where the next one is,
and past bit 31 the shift count wraps. So the sizes are right exactly for powers of two
(`sizes_right_iff`).
-/
import Svmx.MpRehash

set_option autoImplicit false

namespace Svmx.MpHash

/-! ## The bit length -/

theorem size_div_two {n : ℕ} (h : n ≠ 0) : Nat.size n = Nat.size (n / 2) + 1 := by
  have hbit : Nat.bit n.bodd (n / 2) = n := by
    rw [← Nat.div2_val]
    exact Nat.bit_bodd_div2 n
  have hsize := Nat.size_bit (b := n.bodd) (n := n / 2) (by rw [hbit]; exact h)
  rwa [hbit] at hsize

/-- The loop counts the bits that are left. -/
theorem highest_bit_loop_eq {fuel : ℕ} {value : BitVec 32} (h : value.toNat < 2 ^ fuel)
    (index : ℕ) : highest_bit_loop fuel value index = index + Nat.size value.toNat := by
  induction fuel generalizing value index with
  | zero =>
    have hzero : value.toNat = 0 := by omega
    rw [highest_bit_loop, hzero, Nat.size_zero]
    rfl
  | succ fuel ih =>
    rw [highest_bit_loop]
    by_cases hv : value = 0
    · subst hv
      rfl
    · have hne : value.toNat ≠ 0 := fun h0 => hv (BitVec.eq_of_toNat_eq h0)
      have hhalf : (value >>> 1).toNat = value.toNat / 2 := by
        rw [BitVec.toNat_ushiftRight, Nat.shiftRight_eq_div_pow, pow_one]
      rw [if_neg hv, ih (by rw [hhalf]; omega), hhalf, size_div_two hne]
      omega

theorem GetHighestBitIndex_eq (value : BitVec 32) :
    GetHighestBitIndex value = Nat.size value.toNat := by
  rw [GetHighestBitIndex, highest_bit_loop_eq value.isLt, Nat.zero_add]

theorem IsPowerOfTwo_iff (x : BitVec 32) : IsPowerOfTwo x = true ↔ ∃ k < 32, x.toNat = 2 ^ k := by
  have hiff : IsPowerOfTwo x = true ↔ x.toNat ≠ 0 ∧ x.toNat &&& (x.toNat - 1) = 0 := by
    unfold IsPowerOfTwo
    rw [Bool.and_eq_true, bne_iff_ne, beq_iff_eq]
    by_cases hx : x = 0
    · simp [hx]
    · have hpos : x.toNat ≠ 0 := fun h => hx (BitVec.eq_of_toNat_eq h)
      have hsub : (x - 1).toNat = x.toNat - 1 := by
        rw [BitVec.toNat_sub]
        have hone : (1 : BitVec 32).toNat = 1 := rfl
        have hlt := x.isLt
        omega
      rw [← BitVec.toNat_inj, BitVec.toNat_and, hsub]
      constructor
      · rintro ⟨-, h⟩
        exact ⟨hpos, h⟩
      · rintro ⟨-, h⟩
        exact ⟨hx, h⟩
  rw [hiff, Nat.ne_zero_and_sub_one_eq_zero_iff_isPowerOfTwo, Nat.isPowerOfTwo]
  constructor
  · rintro ⟨k, hk⟩
    refine ⟨k, ?_, hk⟩
    have hlt := x.isLt
    rw [hk] at hlt
    exact (Nat.pow_lt_pow_iff_right (by decide)).1 hlt
  · rintro ⟨k, -, hk⟩
    exact ⟨k, hk⟩

/-! ## Rounding -/

/-- A power of two stays. -/
theorem RoundToPowerOfTwo_pow {value : BitVec 32} (h : IsPowerOfTwo value = true) (up : Bool) :
    RoundToPowerOfTwo value up = value := by
  unfold RoundToPowerOfTwo
  rw [if_pos h, ite_self]

/-- Any other value is rounded by its bit length. -/
theorem RoundToPowerOfTwo_other {value : BitVec 32} (h : IsPowerOfTwo value = false)
    (hne : value ≠ 0) (up : Bool) : (RoundToPowerOfTwo value up).toNat =
      2 ^ ((if up then Nat.size value.toNat + 1 else Nat.size value.toNat) % 32) := by
  have hround : RoundToPowerOfTwo value up = BitVec.ofNat 32
      (1 <<< ((if up then Nat.size value.toNat + 1 else Nat.size value.toNat) % 32)) := by
    unfold RoundToPowerOfTwo
    rw [if_neg hne, h, if_neg (by decide), GetHighestBitIndex_eq]
    rfl
  rw [hround, BitVec.toNat_ofNat, Nat.shiftLeft_eq, Nat.one_mul]
  exact Nat.mod_eq_of_lt (Nat.pow_lt_pow_right (by decide) (Nat.mod_lt _ (by decide)))

/-! ## What the sizes should be -/

/-- `2 ^ k` list heads from `buckets` on are empty, and nothing else is written. -/
structure EmptyHeads (hash buckets k : ℕ) (m m' : HashMem) : Prop where
  head : ∀ i < 2 ^ k, m'.next (bucketAt buckets i) = some (lastLink hash)
  other : ∀ a, (∀ i < 2 ^ k, a ≠ bucketAt buckets i) → m'.next a = m.next a

/-- The caller supplies `n` words at `buckets`. -/
def Supplied (m : HashMem) (buckets n : ℕ) : Prop :=
  ∀ i < n, (m.next (bucketAt buckets i)).isSome = true

/-- **The sizes are right** for a requested count: rounding down gives the greatest power of two not
above it, rounding up the least one not below it where 32 bits hold it, and the two functions that
set up buckets set up a power of two of them, no more than the caller supplies. -/
structure SizesRight (v : BitVec 32) : Prop where
  down : v ≠ 0 →
    IsGreatest {x | (∃ k, x = 2 ^ k) ∧ x ≤ v.toNat} (RoundToPowerOfTwo v false).toNat
  up : v ≠ 0 → ∀ p, IsLeast {x | (∃ k, x = 2 ^ k) ∧ v.toNat ≤ x} p → p < 2 ^ 32 →
    (RoundToPowerOfTwo v true).toNat = p
  setup : ∀ (hash : ℕ) (t0 : HashTable) (flags : BitVec 32) (buckets : ℕ) (m : HashMem),
    buckets ≠ 0 → Supplied m buckets v.toNat → ∃ t m' k,
      HashTableInitialize hash t0 flags v buckets m = some (t, m') ∧ t.count.toNat = 2 ^ k ∧
      2 ^ k ≤ v.toNat ∧ EmptyHeads hash buckets k m m'
  change : ∀ (hash : ℕ) (t : HashTable) (buckets : ℕ) (m : HashMem),
    Supplied m buckets v.toNat → ∃ m' k,
      init_buckets hash (newCount v).toNat buckets m = some m' ∧ 2 ^ k ≤ v.toNat ∧
      EmptyHeads hash buckets k m m' ∧
      ∀ fuel r, HashTableChangeTable fuel hash t v buckets m = some r → r.2.1.count.toNat = 2 ^ k

/-! ## Powers of two -/

section Pow

variable {v : BitVec 32} {k : ℕ}

/-- The number of buckets for a requested power of two. -/
theorem newCount_of_pow (hk : k < 32) (hv : v.toNat = 2 ^ k) : (newCount v).toNat = 2 ^ min k 26 := by
  have heq : v = BitVec.ofNat 32 (2 ^ k) := by
    apply BitVec.eq_of_toNat_eq
    rw [hv, BitVec.toNat_ofNat, Nat.mod_eq_of_lt (Nat.pow_lt_pow_right (by decide) hk)]
  rw [heq, newCount_pow hk]

theorem pow_min_le (hv : v.toNat = 2 ^ k) : 2 ^ min k 26 ≤ v.toNat := by
  rw [hv]
  exact Nat.pow_le_pow_right (by decide) (Nat.min_le_left k 26)

/-- The loop over the new buckets. -/
theorem init_supplied (hk : k < 32) (hv : v.toNat = 2 ^ k) (hash : ℕ) {buckets : ℕ} {m : HashMem}
    (h : Supplied m buckets v.toNat) :
    ∃ m', init_buckets hash (newCount v).toNat buckets m = some m' ∧
      EmptyHeads hash buckets (min k 26) m m' := by
  have hle := pow_min_le hv
  obtain ⟨m', hinit, -, hlast, hothers, -⟩ := init_buckets_spec hash (2 ^ min k 26) (p := buckets)
    (m := m) fun i hi => h i (by omega)
  refine ⟨m', ?_, ⟨hlast, hothers⟩⟩
  rw [newCount_of_pow hk hv]
  exact hinit

theorem newCount_lt (hk : k < 32) (hv : v.toNat = 2 ^ k) : (newCount v).toNat < 2 ^ 27 := by
  rw [newCount_of_pow hk hv]
  exact Nat.pow_lt_pow_right (by decide) (by omega)

/-- The table that `HashTableInitialize` leaves has the number of buckets that the loop made. -/
theorem HashTableInitialize_count {hash buckets : ℕ} (t0 : HashTable) (flags : BitVec 32)
    {m m' : HashMem} (hk : k < 32) (hv : v.toNat = 2 ^ k) (hbuckets : buckets ≠ 0)
    (hinit : init_buckets hash (newCount v).toNat buckets m = some m') :
    ∃ t, HashTableInitialize hash t0 flags v buckets m = some (t, m') ∧
      t.count.toNat = 2 ^ min k 26 := by
  set word : BitVec 32 := (flags &&& (0x1F : BitVec 32)) |||
    ((newCount v <<< 5 ||| (t0.BucketCount &&& 0x1F)) &&& 0xFFFFFFE0) with hword
  refine ⟨⟨0, word, buckets⟩, ?_, ?_⟩
  · unfold newCount at hinit
    simp only [HashTableInitialize, if_pos hbuckets, hinit, hword, newCount, Option.bind_eq_bind,
      Option.bind_some]
  · have hcount : (word >>> 5) &&& 0x7FFFFFF = newCount v :=
      packed_count _ _ _ (newCount_lt hk hv)
    rw [HashTable.count, hcount, newCount_of_pow hk hv]

/-- And so has the table that `HashTableChangeTable` leaves. -/
theorem HashTableChangeTable_count {fuel hash buckets : ℕ} {t : HashTable} {m : HashMem}
    {r : ℕ × HashTable × HashMem} (hk : k < 32) (hv : v.toNat = 2 ^ k)
    (hr : HashTableChangeTable fuel hash t v buckets m = some r) :
    r.2.1.count.toNat = 2 ^ min k 26 := by
  unfold HashTableChangeTable at hr
  obtain ⟨m₁, -, hr⟩ := Option.bind_eq_some_iff.mp hr
  obtain ⟨m₂, -, hr⟩ := Option.bind_eq_some_iff.mp hr
  have hcount := change_count (newCount v) t.BucketCount (newCount_lt hk hv)
  rw [← newCount_of_pow hk hv, ← hcount, ← Option.some.inj hr]
  rfl

theorem sizes_right_of_pow (hk : k < 32) (hv : v.toNat = 2 ^ k) : SizesRight v := by
  have hpow : IsPowerOfTwo v = true := (IsPowerOfTwo_iff v).2 ⟨k, hk, hv⟩
  refine ⟨fun _ => ?_, fun _ p hp _ => ?_, ?_, ?_⟩
  · rw [RoundToPowerOfTwo_pow hpow]
    exact ⟨⟨⟨k, hv⟩, le_rfl⟩, fun x hx => hx.2⟩
  · rw [RoundToPowerOfTwo_pow hpow]
    exact le_antisymm hp.1.2 (hp.2 ⟨⟨k, hv⟩, le_rfl⟩)
  · intro hash t0 flags buckets m hbuckets hsupplied
    obtain ⟨m', hinit, hheads⟩ := init_supplied hk hv hash hsupplied
    obtain ⟨t, hrun, hcount⟩ := HashTableInitialize_count t0 flags hk hv hbuckets hinit
    exact ⟨t, m', min k 26, hrun, hcount, pow_min_le hv, hheads⟩
  · intro hash t buckets m hsupplied
    obtain ⟨m', hinit, hheads⟩ := init_supplied hk hv hash hsupplied
    exact ⟨m', min k 26, hinit, pow_min_le hv, hheads, fun fuel r hr =>
      HashTableChangeTable_count hk hv hr⟩

end Pow

/-! ## Everything else -/

/-- Without buckets the size is no power of two. -/
theorem not_sizes_right_zero : ¬ SizesRight 0 := by
  intro h
  obtain ⟨t, m', k, hrun, hcount, hle, -⟩ := h.setup 0 ⟨0, 0, 0⟩ 0 8 kernelMem (by decide)
    fun i _ => rfl
  have hpos := Nat.two_pow_pos k
  have hzero : (0 : BitVec 32).toNat = 0 := rfl
  omega

/-- Rounding down a value between two powers of two misses the one below. -/
theorem not_sizes_right_other {v : BitVec 32} (h : IsPowerOfTwo v = false) (hne : v ≠ 0) :
    ¬ SizesRight v := by
  intro hright
  obtain ⟨⟨-, hle⟩, hgreatest⟩ := hright.down hne
  have hround := RoundToPowerOfTwo_other h hne false
  rw [if_neg (by decide)] at hround
  rw [hround] at hle hgreatest
  have hsize : Nat.size v.toNat ≤ 32 := Nat.size_le.2 v.isLt
  have hself := Nat.lt_size_self v.toNat
  rcases Nat.lt_or_eq_of_le hsize with hlt | heq
  · -- the next power of two is above the value
    rw [Nat.mod_eq_of_lt hlt] at hle
    omega
  · -- the shift count is 32, and the result is 1
    have hbig : 2 ^ 31 ≤ v.toNat := Nat.lt_size.1 (by omega)
    have hone := hgreatest ⟨⟨31, rfl⟩, hbig⟩
    rw [heq] at hone
    exact absurd hone (by decide)

/-- **The sizes are right exactly for powers of two.** -/
theorem sizes_right_iff (v : BitVec 32) : SizesRight v ↔ IsPowerOfTwo v = true := by
  constructor
  · intro h
    by_contra hpow
    rw [Bool.not_eq_true] at hpow
    by_cases hne : v = 0
    · rw [hne] at h
      exact not_sizes_right_zero h
    · exact not_sizes_right_other hpow hne h
  · intro hpow
    obtain ⟨k, hk, hv⟩ := (IsPowerOfTwo_iff v).1 hpow
    exact sizes_right_of_pow hk hv

/-- For 3 buckets rounding down gives 4, and so many buckets are set up; rounding up gives 8. From
`2 ^ 31 + 1` on rounding down gives 1. -/
theorem sizes_of_three :
    ¬ SizesRight 3 ∧ RoundToPowerOfTwo 3 false = 4 ∧ RoundToPowerOfTwo 3 true = 8 ∧
      (HashTableInitialize 0x1000 ⟨0, 0, 0⟩ 0 3 0x2000 kernelMem).map (fun r => r.1.count) =
        some 4 ∧
      RoundToPowerOfTwo 0x80000001 false = 1 :=
  ⟨not_sizes_right_other (by decide) (by decide), by decide, by decide, by decide, by decide⟩

end Svmx.MpHash
