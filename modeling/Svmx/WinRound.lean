/-
Rounding and stepping with the integer widths of the Windows build, one level at a time.

`gfn_round_for_level` is to give the largest multiple of `512^(level-1)` up to the gfn, and
`try_step_side` to advance by `512^(level-1)`. The mask is 32 bits wide and the page count is wrong
from level 4 up, so both hold together exactly at the levels 1 to 3 for gfns below `2^32`
(`gfn_steps_iff`).
-/
import Mathlib.Order.Bounds.Basic
import Svmx.MemSlot
import Svmx.WinWalk

set_option autoImplicit false

namespace Svmx.Tdp

/-! ## Largest multiples -/

/-- The largest multiple of `d` up to `g`. -/
theorem isGreatest_multiple_iff {d g x : ℕ} (hd : 0 < d) :
    IsGreatest {n | d ∣ n ∧ n ≤ g} x ↔ x = g / d * d := by
  have hgreatest : IsGreatest {n | d ∣ n ∧ n ≤ g} (g / d * d) := by
    refine ⟨⟨Nat.dvd_mul_left d _, Nat.div_mul_le_self g d⟩, ?_⟩
    rintro n ⟨⟨c, rfl⟩, hn⟩
    rw [Nat.mul_comm]
    exact Nat.mul_le_mul_right d ((Nat.le_div_iff_mul_le hd).mpr (by rwa [Nat.mul_comm]))
  constructor
  · intro h
    exact h.unique hgreatest
  · rintro rfl
    exact hgreatest

/-! ## What the walkers rely on -/

/-- `gfn_round_for_level` gives the largest multiple of the entry size that is not above the gfn. -/
def RoundsDown (gfn level : ℕ) : Prop :=
  IsGreatest {n | 512 ^ (level - 1) ∣ n ∧ n ≤ gfn} (gfn_round_for_level winHpage gfn level)

/-- Wherever `try_step_side` steps, it advances the gfn by the entry size. -/
def StepsByEntry (gfn level : ℕ) : Prop :=
  ∀ (m : PtMem) (iter iter' : TdpIter), iter.gfn = gfn → iter.level = level →
    try_step_side winHpage m iter = some (true, iter') → iter'.gfn = gfn + 512 ^ (level - 1)

theorem try_step_side_gfn {hp : Hpage} {m : PtMem} {iter iter' : TdpIter}
    (h : try_step_side hp m iter = some (true, iter')) :
    iter'.gfn = (iter.gfn + hp.pages iter.level) % 2 ^ 64 := by
  unfold try_step_side at h
  split at h
  · cases (Prod.mk.inj (Option.some.inj h)).1
  · obtain ⟨old_spte, -, h⟩ := Option.bind_eq_some_iff.mp h
    rw [← (Prod.mk.inj (Option.some.inj h)).2]

/-- An iterator before the last entry of an empty table. -/
theorem try_step_side_steps (hp : Hpage) (level : ℕ) {gfn : ℕ} (hgfn : gfn < 2 ^ 52)
    (hidx : gfn / 512 ^ (level - 1) % 512 ≠ 511) (hlevel : 1 ≤ level) :
    ∃ iter', try_step_side hp twoTables
      { blankIter with gfn := gfn, level := level, sptep := ⟨0x2000, 0⟩ } = some (true, iter') := by
  obtain ⟨l, rfl⟩ : ∃ l, level = l + 1 := ⟨level - 1, by omega⟩
  have hne : ¬ SPTE_INDEX (gfn_to_gpa gfn) (l + 1) = SPTE_ENT_PER_PAGE - 1 := by
    rw [spte_index_eq gfn l hgfn]
    exact hidx
  unfold try_step_side
  rw [if_neg hne]
  exact ⟨_, rfl⟩

/-! ## The three levels that work -/

/-- Below level 4 the rounding is right exactly for the gfns of 32 bits. -/
theorem roundsDown_low_iff {gfn l : ℕ} (hl : l < 3) : RoundsDown gfn (l + 1) ↔ gfn < 2 ^ 32 := by
  unfold RoundsDown
  rw [isGreatest_multiple_iff (Nat.pow_pos (by omega)), win_round gfn l hl, Nat.add_sub_cancel]
  have hcases : l = 0 ∨ l = 1 ∨ l = 2 := by omega
  rcases hcases with rfl | rfl | rfl
  · norm_num
  · norm_num
    omega
  · norm_num
    omega

theorem stepsByEntry_low {gfn l : ℕ} (hgfn : gfn < 2 ^ 52) (hl : l < 3) :
    StepsByEntry gfn (l + 1) := by
  intro m iter iter' hg hlevel hstep
  have hpow : 512 ^ l ≤ 512 ^ 3 := Nat.pow_le_pow_right (by omega) (by omega)
  rw [try_step_side_gfn hstep, hg, hlevel, win_pages l hl, Nat.add_sub_cancel]
  exact Nat.mod_eq_of_lt (by omega)

/-! ## The two levels that do not -/

/-- Where the rounding is right at level 4 or 5, the gfn is in entry 0 of its table. -/
theorem roundsDown_high {gfn l : ℕ} (hl : l = 3 ∨ l = 4) (h : RoundsDown gfn (l + 1)) :
    gfn / 512 ^ l = 0 := by
  unfold RoundsDown at h
  rw [isGreatest_multiple_iff (Nat.pow_pos (by omega)), Nat.add_sub_cancel] at h
  rcases hl with rfl | rfl
  · rw [win_round_four] at h
    norm_num at h ⊢
    omega
  · rw [win_round_five] at h
    norm_num at h ⊢
    omega

/-- There a side step does not advance by the size of the entry. -/
theorem not_stepsByEntry_high {gfn l : ℕ} (hgfn : gfn < 2 ^ 52) (hl : l = 3 ∨ l = 4)
    (hzero : gfn / 512 ^ l = 0) : ¬ StepsByEntry gfn (l + 1) := by
  intro hsteps
  obtain ⟨iter', hstep⟩ := try_step_side_steps winHpage (l + 1) hgfn
    (by rw [Nat.add_sub_cancel, hzero]; decide) (by omega)
  have hadvance := hsteps twoTables _ iter' rfl rfl hstep
  rw [try_step_side_gfn hstep] at hadvance
  rcases hl with rfl | rfl
  · have hpages : winHpage.pages (3 + 1) = 0 := win_pages_four
    dsimp only at hadvance
    rw [hpages] at hadvance
    norm_num at hadvance
    omega
  · have hpages : winHpage.pages (4 + 1) = 16 := win_pages_five
    dsimp only at hadvance
    rw [hpages] at hadvance
    norm_num at hadvance
    omega

/-- **The gfn arithmetic of the walkers.** For every gfn up to `kvm_mmu_max_gfn()` and every level 1
to 5, the rounding and the side step are right together exactly at the levels 1 to 3 and for a gfn
below `2^32`. -/
theorem gfn_steps_iff (host : MemSlot.Host) {gfn level : ℕ}
    (hbits : host.shadow_phys_bits ≤ 52) (hgfn : gfn ≤ MemSlot.kvm_mmu_max_gfn host)
    (h1 : 1 ≤ level) (h5 : level ≤ 5) :
    (RoundsDown gfn level ∧ StepsByEntry gfn level) ↔ level ≤ 3 ∧ gfn < 2 ^ 32 := by
  have hlt : gfn < 2 ^ 52 := by
    have hexp : (if host.tdp_enabled then host.shadow_phys_bits else 52) - PAGE_SHIFT ≤ 40 := by
      have hshift : PAGE_SHIFT = 12 := rfl
      split <;> omega
    have hpow := Nat.pow_le_pow_right (by omega : 2 > 0) hexp
    unfold MemSlot.kvm_mmu_max_gfn at hgfn
    omega
  obtain ⟨l, rfl⟩ : ∃ l, level = l + 1 := ⟨level - 1, by omega⟩
  by_cases hl : l < 3
  · rw [roundsDown_low_iff hl]
    constructor
    · rintro ⟨h32, -⟩
      exact ⟨by omega, h32⟩
    · rintro ⟨-, h32⟩
      exact ⟨h32, stepsByEntry_low hlt hl⟩
  · constructor
    · rintro ⟨hround, hstep⟩
      have hhigh : l = 3 ∨ l = 4 := by omega
      exact absurd hstep (not_stepsByEntry_high hlt hhigh (roundsDown_high hhigh hround))
    · rintro ⟨h3, -⟩
      omega

/-- The largest 4 KB page below `2^32` frames. -/
theorem gfn_steps_below_16_tb :
    (RoundsDown (2 ^ 32 - 1) 1 ∧ StepsByEntry (2 ^ 32 - 1) 1) ↔ 1 ≤ 3 ∧ 2 ^ 32 - 1 < 2 ^ 32 :=
  gfn_steps_iff ⟨true, true, 46⟩ (by decide) (by decide) (by decide) (by decide)

/-- Frame `2^32` is rounded to 0 at level 1, and at level 4 the side step of gfn 0 stays at 0. -/
theorem gfn_steps_wrong :
    ¬ RoundsDown (2 ^ 32) 1 ∧ ¬ StepsByEntry 0 4 ∧
      2 ^ 32 ≤ MemSlot.kvm_mmu_max_gfn ⟨true, true, 46⟩ := by
  refine ⟨?_, not_stepsByEntry_high (by decide) (Or.inl rfl) (by decide), by decide⟩
  rw [roundsDown_low_iff (by decide)]
  exact Nat.lt_irrefl _

end Svmx.Tdp
