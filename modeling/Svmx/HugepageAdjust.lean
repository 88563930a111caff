/-
The frame of a fault while its goal level is lowered: `kvm_mmu_hugepage_adjust` clears the low bits of
the frame for the level it chooses, and `disallowed_hugepage_adjust` gives nine of them back, from the
gfn, for every level that the walk has to go down further (`mmu.c`).

The page counts are exact up to level 3. The mask that clears is a 64-bit one; the mask that gives back
is the 32-bit difference of two page counts, and it has just the nine bits. So as long as the frame and
the gfn agree below the block of the chosen level, the frame is the original one with the bits of the
block of the current level cleared (`Demoted.frame`).

`host_pfn_mapping_level` is always 4K, so the level that is chosen is never above 4K. What
`disallowed_hugepage_adjust` does is shown for every goal level that the page sizes allow.
-/
import Svmx.TdpMap

set_option autoImplicit false

namespace Svmx.Tdp

variable {mm : Mm}

/-! ## Demotions -/

/-- The condition of `disallowed_hugepage_adjust`: the walk wants to put a page of this level where
there is a table that was made because huge pages are disallowed. -/
def hugepage_disallowed (mm : Mm) (headers : ℕ → Option KvmMmuPage) (fault : KvmPageFault)
    (spte : BitVec 64) (cur_level : ℕ) : Prop :=
  PG_LEVEL_4K < cur_level ∧ cur_level = fault.goal_level ∧ is_shadow_present_pte spte = true ∧
    is_large_pte spte = false ∧
    ∃ sp, headers (ShadowPage.spte_to_child_sp mm spte) = some sp ∧ sp.nx_huge_page_disallowed = true

/-- Calls of `disallowed_hugepage_adjust` on a fault, for any entries and levels, of which `k` have
demoted it. -/
inductive Demoted (mm : Mm) (fault : KvmPageFault) : ℕ → KvmPageFault → Prop where
  | start : Demoted mm fault 0 fault
  | keep {k : ℕ} {f f' : KvmPageFault} {headers : ℕ → Option KvmMmuPage} {spte : BitVec 64}
      {cur_level : ℕ} (h : Demoted mm fault k f)
      (hno : ¬ hugepage_disallowed mm headers f spte cur_level)
      (hcall : disallowed_hugepage_adjust mm headers f spte cur_level = some f') :
      Demoted mm fault k f'
  | demote {k : ℕ} {f f' : KvmPageFault} {headers : ℕ → Option KvmMmuPage} {spte : BitVec 64}
      {cur_level : ℕ} (h : Demoted mm fault k f)
      (hdemote : hugepage_disallowed mm headers f spte cur_level)
      (hcall : disallowed_hugepage_adjust mm headers f spte cur_level = some f') :
      Demoted mm fault (k + 1) f'

/-- A call that does not demote leaves the fault alone. -/
theorem disallowed_hugepage_adjust_keep {headers : ℕ → Option KvmMmuPage} {f f' : KvmPageFault}
    {spte : BitVec 64} {cur_level : ℕ} (hno : ¬ hugepage_disallowed mm headers f spte cur_level)
    (hcall : disallowed_hugepage_adjust mm headers f spte cur_level = some f') : f' = f := by
  unfold disallowed_hugepage_adjust at hcall
  split at hcall
  · next hcond =>
    obtain ⟨sp, hsp, hcall⟩ := Option.bind_eq_some_iff.mp hcall
    obtain ⟨hlevel, hgoal, hpresent, hlarge⟩ := hcond
    split at hcall
    · next hnx =>
      exact absurd ⟨hlevel, hgoal, hpresent, Bool.not_eq_true' _ ▸ hlarge, sp, hsp, hnx⟩ hno
    · exact (Option.some.inj hcall).symm
  · exact (Option.some.inj hcall).symm

/-- The mask of the nine bits. -/
def page_mask (level : ℕ) : ℕ :=
  (KVM_PAGES_PER_HPAGE level + 2 ^ 32 - KVM_PAGES_PER_HPAGE (level - 1)) % 2 ^ 32

/-- A call that demotes. -/
theorem disallowed_hugepage_adjust_demote {headers : ℕ → Option KvmMmuPage} {f f' : KvmPageFault}
    {spte : BitVec 64} {cur_level : ℕ} (hdemote : hugepage_disallowed mm headers f spte cur_level)
    (hcall : disallowed_hugepage_adjust mm headers f spte cur_level = some f') :
    f'.goal_level = f.goal_level - 1 ∧ f'.gfn = f.gfn ∧
      f'.pfn = f.pfn ||| BitVec.ofNat 64 (f.gfn &&& page_mask f.goal_level) := by
  obtain ⟨hlevel, rfl, hpresent, hlarge, sp, hsp, hnx⟩ := hdemote
  unfold disallowed_hugepage_adjust at hcall
  have hcond : PG_LEVEL_4K < f.goal_level ∧ f.goal_level = f.goal_level ∧
      is_shadow_present_pte spte = true ∧ (!is_large_pte spte) = true :=
    ⟨hlevel, rfl, hpresent, by rw [hlarge]; rfl⟩
  rw [if_pos hcond, hsp, Option.bind_eq_bind, Option.bind_some, if_pos hnx] at hcall
  rw [← Option.some.inj hcall]
  exact ⟨rfl, rfl, rfl⟩

/-! ## The masks -/

/-- The mask that `kvm_mmu_hugepage_adjust` clears for a level. -/
def hpage_mask (level : ℕ) : BitVec 64 := BitVec.ofNat 64 (KVM_PAGES_PER_HPAGE level - 1)

/-- A frame with the bits of a block cleared. -/
theorem clear_block (pfn : BitVec 64) {level : ℕ} (hlo : 1 ≤ level) (hhi : level ≤ 3) :
    (pfn &&& ~~~hpage_mask level).toNat = pfn.toNat / 512 ^ (level - 1) * 512 ^ (level - 1) := by
  have hmask : (~~~hpage_mask level).toNat = 2 ^ 64 - 2 ^ (9 * (level - 1)) := by
    interval_cases level <;> decide
  have hpow : 512 ^ (level - 1) = 2 ^ (9 * (level - 1)) := by
    rw [show 512 = 2 ^ 9 from rfl, ← Nat.pow_mul]
  rw [BitVec.toNat_and, hmask, and_high_mask 64 _ _ (by omega), Nat.mod_eq_of_lt pfn.isLt, hpow]

/-- The bits that a demotion takes from the gfn. -/
theorem and_page_mask (gfn : ℕ) {level : ℕ} (hlo : 2 ≤ level) (hhi : level ≤ 3) :
    gfn &&& page_mask level = gfn % 512 ^ (level - 1) / 512 ^ (level - 2) * 512 ^ (level - 2) := by
  have hmask : page_mask level = 2 ^ (9 * (level - 1)) - 2 ^ (9 * (level - 2)) := by
    interval_cases level <;> decide
  have hpow : ∀ n, 512 ^ n = 2 ^ (9 * n) := by
    intro n
    rw [show 512 = 2 ^ 9 from rfl, ← Nat.pow_mul]
  rw [hmask, and_high_mask _ _ _ (by omega), hpow, hpow]

/-! ## The frame on the way down -/

/-- A fault as `kvm_mmu_hugepage_adjust` leaves it: the gfn is the same, and the frame is aligned to the
goal level. -/
def HugepageAdjusted (fault fault' : KvmPageFault) : Prop :=
  fault'.gfn = fault.gfn ∧ fault'.pfn = fault.pfn &&& ~~~hpage_mask fault'.goal_level

theorem kvm_mmu_hugepage_adjust_adjusted {max_huge_page_level : ℕ} {fault fault' : KvmPageFault}
    (hgoal : fault.goal_level = PG_LEVEL_4K)
    (h : kvm_mmu_hugepage_adjust max_huge_page_level fault = some fault') :
    HugepageAdjusted fault fault' := by
  have hkeep : fault.pfn = fault.pfn &&& ~~~hpage_mask PG_LEVEL_4K := by
    have hmask : ~~~hpage_mask PG_LEVEL_4K = BitVec.allOnes 64 := by decide
    rw [hmask, BitVec.and_allOnes]
  rw [← hgoal] at hkeep
  unfold kvm_mmu_hugepage_adjust at h
  dsimp only at h
  split at h
  · rw [← Option.some.inj h]
    exact ⟨rfl, hkeep⟩
  · split at h
    · rw [← Option.some.inj h]
      exact ⟨rfl, hkeep⟩
    · obtain ⟨slot, -, h⟩ := Option.bind_eq_some_iff.mp h
      split at h
      · rw [← Option.some.inj h]
        exact ⟨rfl, hkeep⟩
      · split at h
        · rw [← Option.some.inj h]
          exact ⟨rfl, hkeep⟩
        · rw [← Option.some.inj h]
          exact ⟨rfl, rfl⟩

/-- The frame of a fault that has been demoted `k` times from level `g`. -/
structure FrameAt (fault : KvmPageFault) (g k : ℕ) (f : KvmPageFault) : Prop where
  level : f.goal_level = g - k
  gfn : f.gfn = fault.gfn
  pfn : f.pfn.toNat = fault.pfn.toNat / 512 ^ (g - k - 1) * 512 ^ (g - k - 1)

/-- One demotion. -/
theorem FrameAt.demote {fault f f' : KvmPageFault} {g k : ℕ} (hg : g ≤ 3) (hk : k + 1 < g)
    (hagree : fault.pfn.toNat % 512 ^ (g - 1) = fault.gfn % 512 ^ (g - 1)) (h : FrameAt fault g k f)
    {headers : ℕ → Option KvmMmuPage} {spte : BitVec 64} {cur_level : ℕ}
    (hdemote : hugepage_disallowed mm headers f spte cur_level)
    (hcall : disallowed_hugepage_adjust mm headers f spte cur_level = some f') :
    FrameAt fault g (k + 1) f' := by
  obtain ⟨hlevel, hgfn, hpfn⟩ := disallowed_hugepage_adjust_demote hdemote hcall
  refine ⟨?_, hgfn.trans h.gfn, ?_⟩
  · rw [hlevel, h.level]
    omega
  -- the gfn and the frame agree below the block that is split
  have hbelow : fault.pfn.toNat % 512 ^ (g - k - 1) = fault.gfn % 512 ^ (g - k - 1) := by
    have hdvd : 512 ^ (g - k - 1) ∣ 512 ^ (g - 1) := Nat.pow_dvd_pow 512 (by omega)
    rw [← Nat.mod_mod_of_dvd _ hdvd, hagree, Nat.mod_mod_of_dvd _ hdvd]
  have hbits : fault.gfn &&& page_mask f.goal_level =
      fault.pfn.toNat % 512 ^ (g - k - 1) / 512 ^ (g - (k + 1) - 1) * 512 ^ (g - (k + 1) - 1) := by
    rw [h.level, and_page_mask _ (by omega) (by omega), hbelow]
    rfl
  have hsmall : fault.gfn &&& page_mask f.goal_level < 2 ^ 64 := by
    refine Nat.lt_of_le_of_lt Nat.and_le_right ?_
    exact Nat.lt_of_lt_of_le (Nat.mod_lt _ (by norm_num)) (by norm_num)
  have hpow : ∀ n, 512 ^ n = 2 ^ (9 * n) := by
    intro n
    rw [show 512 = 2 ^ 9 from rfl, ← Nat.pow_mul]
  rw [hpfn, h.gfn, BitVec.toNat_or, BitVec.toNat_ofNat, Nat.mod_eq_of_lt hsmall, h.pfn, hbits, hpow,
    hpow]
  exact restore_bits _ (by omega)

/-- **The frame on the way down.** After `k` demotions from level `g` the goal level is `g - k`, and the
frame is the original one with the bits of a block of that level cleared. -/
theorem Demoted.frame {fault fault₁ fault₂ : KvmPageFault} {k : ℕ}
    (hadjusted : HugepageAdjusted fault fault₁) (hg : fault₁.goal_level ≤ 3)
    (hagree : fault.pfn.toNat % 512 ^ (fault₁.goal_level - 1) =
      fault.gfn % 512 ^ (fault₁.goal_level - 1))
    (h : Demoted mm fault₁ k fault₂) :
    k < fault₁.goal_level → FrameAt fault fault₁.goal_level k fault₂ := by
  induction h with
  | start =>
    intro hk
    refine ⟨rfl, hadjusted.1, ?_⟩
    rw [hadjusted.2, clear_block _ (by omega) hg]
    rfl
  | keep _ hno hcall ih =>
    intro hk
    rw [disallowed_hugepage_adjust_keep hno hcall]
    exact ih hk
  | demote _ hdemote hcall ih =>
    intro hk
    exact (ih (by omega)).demote hg hk hagree hdemote hcall

/-- A round of the loop of `kvm_tdp_mmu_map` calls `disallowed_hugepage_adjust` at most once. -/
theorem adjust_disallowed_demoted {fault f f' : KvmPageFault} {k : ℕ} {iter : TdpIter} {st : MapState}
    (h : Demoted mm fault k f) (hcall : adjust_disallowed mm f iter st = some f') :
    ∃ k', Demoted mm fault k' f' := by
  unfold adjust_disallowed at hcall
  split at hcall
  · by_cases hdemote : hugepage_disallowed mm st.headers f iter.old_spte iter.level
    · exact ⟨k + 1, h.demote hdemote hcall⟩
    · exact ⟨k, h.keep hdemote hcall⟩
  · rw [← Option.some.inj hcall]
    exact ⟨k, h⟩

/-- **Demotions give back the right bits.** A fault that `kvm_mmu_hugepage_adjust` has seen is aligned to
its goal level. From any goal level `g` of the page sizes, when the frame and the gfn agree below a
block of that level, `k < g` demotions leave the goal level `g - k` and the original frame with the
bits of a block of that level cleared; at 4K it is the original frame. -/
theorem hugepage_demotions_exact (mm : Mm) :
    (∀ (max_huge_page_level : ℕ) (fault fault₁ : KvmPageFault), fault.goal_level = PG_LEVEL_4K →
      kvm_mmu_hugepage_adjust max_huge_page_level fault = some fault₁ →
      HugepageAdjusted fault fault₁) ∧
    ∀ (fault fault₁ fault₂ : KvmPageFault) (k : ℕ), HugepageAdjusted fault fault₁ →
      fault₁.goal_level ≤ 3 →
      fault.pfn.toNat % 512 ^ (fault₁.goal_level - 1) = fault.gfn % 512 ^ (fault₁.goal_level - 1) →
      Demoted mm fault₁ k fault₂ → k < fault₁.goal_level →
      fault₂.goal_level = fault₁.goal_level - k ∧
        fault₂.pfn.toNat = fault.pfn.toNat / 512 ^ (fault₁.goal_level - k - 1) *
          512 ^ (fault₁.goal_level - k - 1) ∧
        (fault₂.goal_level = PG_LEVEL_4K → fault₂.pfn = fault.pfn) := by
  refine ⟨fun max_huge_page_level fault fault₁ => kvm_mmu_hugepage_adjust_adjusted, ?_⟩
  intro fault fault₁ fault₂ k hadjusted hg hagree hdemoted hk
  have hframe := hdemoted.frame hadjusted hg hagree hk
  refine ⟨hframe.level, hframe.pfn, fun h4k => ?_⟩
  apply BitVec.eq_of_toNat_eq
  rw [hframe.pfn, ← hframe.level, h4k, PG_LEVEL_4K, Nat.sub_self, Nat.pow_zero, Nat.div_one,
    Nat.mul_one]

/-- A fault on gfn `0x12345`, whose frame is `0x92345`, aligned to 1 GB. -/
def bigFault : KvmPageFault where
  exec := false
  prefetch := false
  nx_huge_page_workaround_enabled := true
  huge_page_disallowed := false
  max_level := 3
  req_level := 3
  goal_level := 3
  gfn := 0x12345
  slot := none
  pfn := 0x80000
  map_writable := true

/-- Pages that were made because huge pages are disallowed. -/
def nxHeaders (_ : ℕ) : Option KvmMmuPage :=
  some { role := ⟨0x82⟩, gfn := 0, spt := 0x2000, shadowed_translation := 0, tdp_mmu_page := true,
         nx_huge_page_disallowed := true, mmu_valid_gen := 0, tdp_mmu_root_count := 0 }

/-- It demoted to 2 MB, and to 4K. -/
def bigFault2M : KvmPageFault := { bigFault with pfn := 0x92200, goal_level := 2 }
def bigFault4K : KvmPageFault := { bigFault with pfn := 0x92345, goal_level := 1 }

/-- Two demotions bring it down to 4K, and its frame is `0x92345` again. -/
theorem big_fault_demoted : Demoted flatMm bigFault 2 bigFault4K ∧
    bigFault4K.goal_level = bigFault.goal_level - 2 ∧ bigFault4K.pfn.toNat = 0x92345 := by
  have hone : Demoted flatMm bigFault 1 bigFault2M :=
    @Demoted.demote flatMm bigFault 0 bigFault bigFault2M nxHeaders 0x807 3 .start
      ⟨by decide, rfl, by decide, by decide, _, rfl, rfl⟩ rfl
  have htwo : Demoted flatMm bigFault 2 bigFault4K :=
    @Demoted.demote flatMm bigFault 1 bigFault2M bigFault4K nxHeaders 0x807 2 hone
      ⟨by decide, rfl, by decide, by decide, _, rfl, rfl⟩ rfl
  obtain ⟨hlevel, hpfn, -⟩ := (hugepage_demotions_exact flatMm).2 bigFault4K bigFault bigFault4K 2
    ⟨rfl, by decide⟩ (by decide) (by decide) htwo (by decide)
  exact ⟨htwo, hlevel, hpfn⟩

end Svmx.Tdp
