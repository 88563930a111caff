/-
Words under a mask: `blend owned new old` takes the bits in `owned` from `new` and the others from
`old`. This is how a cached register is brought up to date, and what a reader sees through a mask of
ownership.
-/
import Mathlib.Tactic.Common

set_option autoImplicit false

namespace Blend

variable {w : ℕ} {owned possible forced new new' old mask x y : BitVec w}

/-- The bits in `owned` from `new`, the others from `old`. -/
def blend (owned new old : BitVec w) : BitVec w := (old &&& ~~~owned) ||| (new &&& owned)

theorem getLsbD_blend (owned new old : BitVec w) (i : ℕ) : (blend owned new old).getLsbD i =
    if owned.getLsbD i then new.getLsbD i else old.getLsbD i := by
  unfold blend
  by_cases hi : i < w
  · simp only [BitVec.getLsbD_or, BitVec.getLsbD_and, BitVec.getLsbD_not, hi, decide_true,
      Bool.true_and]
    cases owned.getLsbD i <;> simp
  · rw [BitVec.getLsbD_of_ge _ _ (by omega), BitVec.getLsbD_of_ge _ _ (by omega),
      BitVec.getLsbD_of_ge new _ (by omega), BitVec.getLsbD_of_ge old _ (by omega)]
    simp

/-- Two words agree under a mask when they do in its bits. -/
theorem and_eq_and_iff : new &&& mask = new' &&& mask ↔
    ∀ i, mask.getLsbD i = true → new.getLsbD i = new'.getLsbD i := by
  constructor
  · intro h i hi
    have hbit := congrArg (BitVec.getLsbD · i) h
    simpa [hi] using hbit
  · intro h
    apply BitVec.eq_of_getLsbD_eq
    intro i _
    rw [BitVec.getLsbD_and, BitVec.getLsbD_and]
    cases hi : mask.getLsbD i with
    | true => rw [h i hi]
    | false => simp

theorem and_eq_zero_iff : new &&& mask = 0#w ↔ ∀ i, mask.getLsbD i = true → new.getLsbD i = false := by
  rw [← BitVec.zero_and (x := mask), and_eq_and_iff]
  simp

/-- A word whose owned bits are right stays as it is. -/
theorem blend_eq_self (h : new &&& owned = old &&& owned) : blend owned new old = old := by
  apply BitVec.eq_of_getLsbD_eq
  intro i _
  rw [getLsbD_blend]
  split
  · next hi => exact and_eq_and_iff.mp h i hi
  · rfl

theorem blend_congr (h : new &&& owned = new' &&& owned) :
    blend owned new old = blend owned new' old := by
  apply BitVec.eq_of_getLsbD_eq
  intro i _
  rw [getLsbD_blend, getLsbD_blend]
  split
  · next hi => exact and_eq_and_iff.mp h i hi
  · rfl

theorem blend_blend (owned new new' old : BitVec w) :
    blend owned new (blend owned new' old) = blend owned new old := by
  apply BitVec.eq_of_getLsbD_eq
  intro i _
  simp only [getLsbD_blend]
  split <;> rfl

theorem blend_and_owned (owned new old : BitVec w) : blend owned new old &&& owned = new &&& owned := by
  rw [and_eq_and_iff]
  intro i hi
  rw [getLsbD_blend, if_pos hi]

/-- Bits that are not owned stay. -/
theorem blend_and_of_disjoint (h : owned &&& mask = 0#w) :
    blend owned new old &&& mask = old &&& mask := by
  rw [and_eq_and_iff]
  intro i hi
  rw [getLsbD_blend, and_eq_zero_iff.mp h i hi]
  rfl

/-- A word that has its other bits from `old` keeps doing so when owned bits change. -/
theorem blend_change (h : blend owned new old = new) (x : BitVec w) :
    blend owned (blend owned x new) old = blend owned x new := by
  calc blend owned (blend owned x new) old
      = blend owned x old := blend_congr (blend_and_owned owned x new)
    _ = blend owned x (blend owned new old) := (blend_blend owned x new old).symm
    _ = blend owned x new := by rw [h]

/-- Both words inside a mask, and the blend is. -/
theorem blend_subset (howned : owned &&& mask = owned) (hold : old &&& mask = old) :
    blend owned new old &&& mask = blend owned new old := by
  apply BitVec.eq_of_getLsbD_eq
  intro i _
  have ho := congrArg (BitVec.getLsbD · i) howned
  have hx := congrArg (BitVec.getLsbD · i) hold
  simp only [BitVec.getLsbD_and] at ho hx
  rw [BitVec.getLsbD_and, getLsbD_blend]
  split
  · next hi =>
    rw [hi, Bool.true_and] at ho
    rw [ho, Bool.and_true]
  · exact hx

/-- Forcing bits that are not owned leaves the owned ones. -/
theorem or_and_of_disjoint (x : BitVec w) (h : forced &&& owned = 0#w) :
    (x ||| forced) &&& owned = x &&& owned := by
  rw [BitVec.and_or_distrib_right, h]
  exact BitVec.or_zero

theorem or_and_absorb (x y : BitVec w) : x ||| (x &&& y) = x := by
  apply BitVec.eq_of_getLsbD_eq
  intro i _
  rw [BitVec.getLsbD_or, BitVec.getLsbD_and]
  cases x.getLsbD i <;> simp

/-- Forcing bits that are owned sets them. -/
theorem or_and_of_subset (x : BitVec w) (h : owned &&& forced = owned) :
    (x ||| forced) &&& owned = owned := by
  rw [BitVec.and_or_distrib_right, BitVec.and_comm forced, h, BitVec.or_comm, BitVec.and_comm x]
  exact or_and_absorb owned x

/-- A value with its owned bits set anew is the value exactly when they were set. -/
theorem set_bits_eq_iff (owned value : BitVec w) :
    owned ||| (value &&& ~~~owned) = value ↔ value &&& owned = owned := by
  have hblend : owned ||| (value &&& ~~~owned) = blend owned owned value := by
    rw [blend, BitVec.and_self, BitVec.or_comm]
  rw [hblend]
  constructor
  · intro h
    rw [← h, blend_and_owned, BitVec.and_self]
  · intro h
    apply blend_eq_self
    rw [BitVec.and_self, h]

/-- Clearing bits that are not owned leaves the owned ones. -/
theorem and_and_of_subset (x : BitVec w) (h : mask &&& owned = owned) :
    (x &&& mask) &&& owned = x &&& owned := by
  rw [BitVec.and_assoc, h]

theorem disjoint_of_subset (hsub : owned &&& possible = owned) (h : forced &&& possible = 0#w) :
    forced &&& owned = 0#w := by
  rw [← hsub, BitVec.and_comm owned, ← BitVec.and_assoc, h]
  exact BitVec.zero_and

theorem subset_trans (hsub : owned &&& possible = owned) (h : mask &&& possible = possible) :
    mask &&& owned = owned := by
  rw [← hsub, BitVec.and_comm owned, ← BitVec.and_assoc, h]

/-! ## Words inside a mask -/

/-- A word that sets only bits of `mask`. -/
def Inside (x mask : BitVec w) : Prop := ∀ i, x.getLsbD i = true → mask.getLsbD i = true

theorem inside_iff : Inside x mask ↔ x &&& mask = x := by
  constructor
  · intro h
    apply BitVec.eq_of_getLsbD_eq
    intro i _
    rw [BitVec.getLsbD_and]
    cases hi : x.getLsbD i with
    | true => rw [h i hi]; rfl
    | false => rfl
  · intro h i hi
    have hbit := congrArg (BitVec.getLsbD · i) h
    simpa [hi] using hbit

instance : Decidable (Inside x mask) := decidable_of_iff _ inside_iff.symm

theorem and_not_eq_zero_iff : x &&& ~~~mask = 0#w ↔ Inside x mask := by
  constructor
  · intro h i hi
    have hbit := congrArg (BitVec.getLsbD · i) h
    have hlt : i < w := BitVec.lt_of_getLsbD hi
    simpa [hi, hlt] using hbit
  · intro h
    apply BitVec.eq_of_getLsbD_eq
    intro i hlt
    cases hi : x.getLsbD i with
    | true => simp [h i hi]
    | false => simp [hi]

theorem inside_zero : Inside 0#w mask := by
  intro i hi
  simp at hi

theorem inside_or : Inside (x ||| y) mask ↔ Inside x mask ∧ Inside y mask := by
  constructor
  · intro h
    constructor
    · intro i hi
      exact h i (by rw [BitVec.getLsbD_or, hi]; rfl)
    · intro i hi
      exact h i (by rw [BitVec.getLsbD_or, hi, Bool.or_true])
  · rintro ⟨hx, hy⟩ i hi
    rw [BitVec.getLsbD_or, Bool.or_eq_true] at hi
    exact hi.elim (hx i) (hy i)

theorem inside_refl (x : BitVec w) : Inside x x := fun _ hi => hi

theorem Inside.and_left (h : Inside x mask) (y : BitVec w) : Inside (x &&& y) mask := by
  intro i hi
  rw [BitVec.getLsbD_and, Bool.and_eq_true] at hi
  exact h i hi.1

theorem Inside.and (hy : Inside x y) (hmask : Inside x mask) : Inside x (y &&& mask) := by
  intro i hi
  rw [BitVec.getLsbD_and, hy i hi, hmask i hi]
  rfl

theorem Inside.trans (hxy : Inside x y) (hy : Inside y mask) : Inside x mask :=
  fun i hi => hy i (hxy i hi)

/-- A mask of at most one bit: a word that meets it contains it. -/
def OneBit (mask : BitVec w) : Prop := ∀ x : BitVec w, x &&& mask ≠ 0#w → Inside mask x

theorem oneBit_zero : OneBit 0#w := fun _ h => absurd BitVec.and_zero h

theorem oneBit_twoPow (i : ℕ) : OneBit (BitVec.twoPow w i) := by
  intro x h j hj
  rw [BitVec.getLsbD_twoPow, Bool.and_eq_true, decide_eq_true_eq, decide_eq_true_eq] at hj
  obtain ⟨-, rfl⟩ := hj
  by_contra hbit
  rw [Bool.not_eq_true] at hbit
  apply h
  rw [BitVec.and_twoPow, hbit]
  rfl

/-- Bits that are set already. -/
theorem Inside.or_eq_self (h : Inside mask x) : x ||| mask = x := by
  rw [← inside_iff.mp h, BitVec.and_comm]
  exact or_and_absorb x mask

/-- A word inside a mask is apart from whatever the mask is apart from. -/
theorem Inside.apart (h : Inside x mask) (hmask : mask &&& y = 0#w) : x &&& y = 0#w := by
  rw [← inside_iff.mp h, BitVec.and_assoc, hmask]
  exact BitVec.and_zero

/-- A field is read back through its mask when the rest of the word is apart from it. -/
theorem Inside.read_back (h : Inside x mask) (hrest : y &&& mask = 0#w) :
    (x ||| y) &&& mask = x := by
  rw [BitVec.and_or_distrib_right, inside_iff.mp h, hrest]
  exact BitVec.or_zero

/-- Of the bits that are kept from `(wanted &&& mask) ||| forced`, only forced ones can be outside
`mask`. -/
theorem inside_adjusted {wanted keep : BitVec w} :
    Inside (((wanted &&& mask) ||| forced) &&& keep) mask ↔ Inside (forced &&& keep) mask := by
  rw [BitVec.and_or_distrib_right, inside_or, and_iff_right_iff_imp]
  intro _ i hi
  simp only [BitVec.getLsbD_and, Bool.and_eq_true] at hi
  exact hi.1.2

/-- Bits that a word has need not be set again. -/
theorem and_or_of_inside (h : Inside x y) : (y &&& mask) ||| x = y &&& (mask ||| x) := by
  rw [BitVec.and_or_distrib_left, BitVec.and_comm y x, inside_iff.mp h]

/-- The mask that leaves all but `mask`, if `c` holds. -/
def clearing (c : Prop) [Decidable c] (mask : BitVec w) : BitVec w :=
  if c then ~~~mask else BitVec.allOnes w

theorem clearing_congr {c c' : Prop} [Decidable c] [Decidable c'] (h : c ↔ c') (mask : BitVec w) :
    clearing c mask = clearing c' mask := by
  simp only [clearing, h]

theorem ite_clear (c : Prop) [Decidable c] (x mask : BitVec w) :
    (if c then x &&& ~~~mask else x) = x &&& clearing c mask := by
  unfold clearing
  split
  · rfl
  · rw [BitVec.and_allOnes]

/-- Clearing bits when there are some is clearing them. -/
theorem and_clearing_of_iff {c : Prop} [Decidable c] (hc : c ↔ y &&& mask ≠ 0#w) (h : Inside x y) :
    x &&& clearing c mask = x &&& ~~~mask := by
  rw [clearing_congr hc, ← ite_clear]
  split
  · rfl
  · next hzero =>
    apply BitVec.eq_of_getLsbD_eq
    intro i hlt
    rw [BitVec.getLsbD_and, BitVec.getLsbD_not, decide_eq_true hlt, Bool.true_and]
    cases hx : x.getLsbD i with
    | false => rfl
    | true =>
      have hbit := congrArg (BitVec.getLsbD · i) (not_not.mp hzero)
      simp only [BitVec.getLsbD_and, h i hx, Bool.true_and, BitVec.getLsbD_zero] at hbit
      rw [hbit]
      rfl

/-- Setting the bits in the other case does nothing to a word that has them. -/
theorem ite_clear_or (c : Prop) [Decidable c] (h : Inside mask x) :
    (if c then x &&& ~~~mask else x ||| mask) = x &&& clearing c mask := by
  have hor : x ||| mask = x := by
    rw [← inside_iff.mp h, BitVec.and_comm mask x, or_and_absorb]
  rw [hor, ite_clear]

/-- Clearing other bits does not change the bits of `x`. -/
theorem and_clearing_of_disjoint (c : Prop) [Decidable c] (h : x &&& y = 0#w) :
    mask &&& clearing c x &&& y = mask &&& y := by
  rw [← ite_clear]
  split
  · rw [and_eq_and_iff]
    intro i hi
    have hx : x.getLsbD i = false := and_eq_zero_iff.mp h i hi
    have hlt : i < w := BitVec.lt_of_getLsbD hi
    rw [BitVec.getLsbD_and, BitVec.getLsbD_not, hx, decide_eq_true hlt]
    exact Bool.and_true _
  · rfl

end Blend
