/-
How an SPTE is built (`make_spte`, `make_mmio_spte` of `spte.c`) and told apart from the others
(`is_shadow_present_pte`, `is_mmio_spte`, `is_removed_spte` of `spte.h`), under every configuration
of the masks.

`is_mmio_spte` tests the MMU-present bit, not the MMIO value of the masks. Bit 11 is set in every
entry of `make_spte` and `make_nonleaf_spte` and clear in every entry of `make_mmio_spte`, whatever
the configuration: so the test accepts every present entry and no MMIO entry
(`spte_classes_never`).
-/
import Svmx.Spte

set_option autoImplicit false

namespace Svmx

/-! ## The masks -/

def PT_PRESENT_MASK : BitVec 64 := 1 <<< 0
def PT_USER_MASK : BitVec 64 := 1 <<< 2
def PT_ACCESSED_MASK : BitVec 64 := 1 <<< 5
def PT_DIRTY_MASK : BitVec 64 := 1 <<< 6
def PT64_NX_MASK : BitVec 64 := 1 <<< 63

def ACC_EXEC_MASK : BitVec 64 := 1
def ACC_WRITE_MASK : BitVec 64 := PT_WRITABLE_MASK
def ACC_USER_MASK : BitVec 64 := PT_USER_MASK
def ACC_ALL : BitVec 64 := ACC_EXEC_MASK ||| ACC_WRITE_MASK ||| ACC_USER_MASK

def SPTE_TDP_AD_WRPROT_ONLY : BitVec 64 := 2 <<< 52
def DEFAULT_SPTE_HOST_WRITABLE : BitVec 64 := 1 <<< 9
def DEFAULT_SPTE_MMU_WRITABLE : BitVec 64 := 1 <<< 10
def EPT_SPTE_HOST_WRITABLE : BitVec 64 := 1 <<< 57
def VMX_EPT_RWX_MASK : BitVec 64 := 0x7
def VMX_EPT_MISCONFIG_WX_VALUE : BitVec 64 := 0x6
def SHADOW_NONPRESENT_OR_RSVD_MASK_LEN : ℕ := 5

/-- `GENMASK_ULL(h, l)`: the bits `l` to `h`. -/
def GENMASK_ULL (h l : ℕ) : BitVec 64 :=
  (BitVec.allOnes 64 <<< l) &&& (BitVec.allOnes 64 >>> (63 - h))

def MMIO_SPTE_GEN_LOW_MASK : BitVec 64 := GENMASK_ULL 10 3
def MMIO_SPTE_GEN_HIGH_MASK : BitVec 64 := GENMASK_ULL 62 52
def MMIO_SPTE_GEN_LOW_SHIFT : ℕ := 3
def MMIO_SPTE_GEN_HIGH_SHIFT : ℕ := 52 - 8
def MMIO_SPTE_GEN_MASK : BitVec 64 := GENMASK_ULL 18 0
def SPTE_MMIO_ALLOWED_MASK : BitVec 64 := 1 <<< 63 ||| GENMASK_ULL 51 12 ||| GENMASK_ULL 2 0

/-- All the `shadow_*` globals that the entries of this module are built from. -/
structure PteMasks extends SpteMasks where
  shadow_nx_mask : BitVec 64
  shadow_host_writable_mask : BitVec 64
  shadow_mmio_value : BitVec 64
  shadow_mmio_mask : BitVec 64
  shadow_mmio_access_mask : BitVec 64
  shadow_nonpresent_or_rsvd_mask : BitVec 64
  enable_mmio_caching : Bool
deriving DecidableEq

/-- `kvm_mmu_set_mmio_spte_mask`. -/
def kvm_mmu_set_mmio_spte_mask (allow_mmio_caching : Bool)
    (mmio_value mmio_mask access_mask : BitVec 64) (masks : PteMasks) : PteMasks :=
  let mmio_value := if !allow_mmio_caching then 0 else mmio_value
  let mmio_value := if mmio_mask &&& ~~~SPTE_MMIO_ALLOWED_MASK ≠ 0 then 0 else mmio_value
  { masks with
    enable_mmio_caching := allow_mmio_caching
    shadow_mmio_value := mmio_value
    shadow_mmio_mask := mmio_mask
    shadow_mmio_access_mask := access_mask }

/-- `kvm_mmu_reset_all_pte_masks`, on a processor with `shadow_phys_bits` physical address bits. It
writes every mask but those of the MMIO entries itself. -/
def kvm_mmu_reset_all_pte_masks (allow_mmio_caching : Bool) (shadow_phys_bits : BitVec 8)
    (masks : PteMasks) : PteMasks :=
  let mask : BitVec 64 := if shadow_phys_bits < 52 then 1 <<< 51 ||| PT_PRESENT_MASK else 0
  kvm_mmu_set_mmio_spte_mask allow_mmio_caching mask mask (ACC_WRITE_MASK ||| ACC_USER_MASK)
    { masks with
      shadow_nonpresent_or_rsvd_mask := 0
      shadow_user_mask := PT_USER_MASK
      shadow_accessed_mask := PT_ACCESSED_MASK
      shadow_dirty_mask := PT_DIRTY_MASK
      shadow_nx_mask := PT64_NX_MASK
      shadow_x_mask := 0
      shadow_present_mask := PT_PRESENT_MASK
      shadow_acc_track_mask := 0
      shadow_me_value := 0
      shadow_host_writable_mask := DEFAULT_SPTE_HOST_WRITABLE
      shadow_mmu_writable_mask := DEFAULT_SPTE_MMU_WRITABLE }

/-- `kvm_mmu_set_ept_masks` on all the masks. -/
def kvm_mmu_set_ept_pte_masks (allow_mmio_caching has_ad_bits has_exec_only : Bool)
    (masks : PteMasks) : PteMasks :=
  kvm_mmu_set_mmio_spte_mask allow_mmio_caching VMX_EPT_MISCONFIG_WX_VALUE VMX_EPT_RWX_MASK 0
    { masks with
      toSpteMasks :=
        { kvm_mmu_set_ept_masks has_ad_bits has_exec_only with
          shadow_me_value := masks.shadow_me_value }
      shadow_nx_mask := 0
      shadow_host_writable_mask := EPT_SPTE_HOST_WRITABLE }

/-- The configurations: a reset, and after it any resets and any settings of the EPT masks. -/
inductive Established : PteMasks → Prop where
  | reset (allow_mmio_caching : Bool) (shadow_phys_bits : BitVec 8) (masks : PteMasks) :
      Established (kvm_mmu_reset_all_pte_masks allow_mmio_caching shadow_phys_bits masks)
  | ept (allow_mmio_caching has_ad_bits has_exec_only : Bool) (masks : PteMasks)
      (h : Established masks) :
      Established (kvm_mmu_set_ept_pte_masks allow_mmio_caching has_ad_bits has_exec_only masks)

/-! ## MMIO entries -/

/-- `generation_mmio_spte_mask`. -/
def generation_mmio_spte_mask (gen : BitVec 64) : BitVec 64 :=
  ((gen <<< MMIO_SPTE_GEN_LOW_SHIFT) &&& MMIO_SPTE_GEN_LOW_MASK) |||
    ((gen <<< MMIO_SPTE_GEN_HIGH_SHIFT) &&& MMIO_SPTE_GEN_HIGH_MASK)

/-- `make_mmio_spte`, where `generation` is that of the vCPU's memslots. -/
def make_mmio_spte (masks : PteMasks) (generation gfn : BitVec 64) (access : BitVec 32) :
    BitVec 64 :=
  let gen := generation &&& MMIO_SPTE_GEN_MASK
  let spte := generation_mmio_spte_mask gen
  let gpa := gfn <<< PAGE_SHIFT
  let access := access &&& masks.shadow_mmio_access_mask.setWidth 32
  let spte := spte ||| (masks.shadow_mmio_value ||| access.setWidth 64)
  let spte := spte ||| (gpa ||| masks.shadow_nonpresent_or_rsvd_mask)
  spte ||| ((gpa &&& masks.shadow_nonpresent_or_rsvd_mask) <<< SHADOW_NONPRESENT_OR_RSVD_MASK_LEN)

/-! ## Present entries -/

def KvmMmuPageRole.ad_disabled (role : KvmMmuPageRole) : Bool := role.word.getLsbD 16
def KvmMmuPageRole.guest_mode (role : KvmMmuPageRole) : Bool := role.word.getLsbD 17

def spte_ad_enabled (spte : BitVec 64) : Bool := spte &&& SPTE_TDP_AD_MASK != SPTE_TDP_AD_DISABLED

def spte_shadow_accessed_mask (masks : SpteMasks) (spte : BitVec 64) : BitVec 64 :=
  if spte_ad_enabled spte then masks.shadow_accessed_mask else 0

/-- What `make_spte` reads beside the masks and its arguments. -/
structure SpteHost where
  cpu_dirty_log_size : ℕ
  nx_huge_page_enabled : Bool

/-- `kvm_mmu_page_ad_need_write_protect`. -/
def kvm_mmu_page_ad_need_write_protect (host : SpteHost) (sp : KvmMmuPage) : Bool :=
  host.cpu_dirty_log_size != 0 && sp.role.guest_mode

/-- `kvm_is_mmio_pfn`. -/
def kvm_is_mmio_pfn (_pfn : BitVec 64) : Bool := false

/-- `make_spte`: whether the entry is write-protected, and the entry. The slot, the gfn, the old
entry and `can_unsync` are not read, and the frame is not written into the entry. -/
def make_spte (host : SpteHost) (masks : PteMasks) (sp : KvmMmuPage) (pte_access : BitVec 32)
    (pfn : BitVec 64) (prefetch host_writable : Bool) : Bool × BitVec 64 :=
  let level := sp.role.level
  let pte_access := pte_access.setWidth 64
  let spte := SPTE_MMU_PRESENT_MASK
  let spte := if sp.role.ad_disabled then spte ||| SPTE_TDP_AD_DISABLED
    else if kvm_mmu_page_ad_need_write_protect host sp then spte ||| SPTE_TDP_AD_WRPROT_ONLY
    else spte
  let spte := spte ||| masks.shadow_present_mask
  let spte := if !prefetch then spte ||| spte_shadow_accessed_mask masks.toSpteMasks spte else spte
  let pte_access := if PG_LEVEL_4K < level ∧ pte_access &&& ACC_EXEC_MASK ≠ 0 ∧
      host.nx_huge_page_enabled then pte_access &&& ~~~ACC_EXEC_MASK else pte_access
  let spte := if pte_access &&& ACC_EXEC_MASK ≠ 0 then spte ||| masks.shadow_x_mask
    else spte ||| masks.shadow_nx_mask
  let spte := if pte_access &&& ACC_USER_MASK ≠ 0 then spte ||| masks.shadow_user_mask else spte
  let spte := if PG_LEVEL_4K < level then spte ||| PT_PAGE_SIZE_MASK else spte
  -- without `host_writable` the source clears the write access, which is not read any more
  let spte := if host_writable then spte ||| masks.shadow_host_writable_mask else spte
  let spte := if masks.shadow_me_value ≠ 0 ∧ !kvm_is_mmio_pfn pfn
    then spte ||| masks.shadow_me_value else spte
  (false, spte)

/-! ## The classes -/

/-- `is_mmio_spte`. -/
def is_mmio_spte (pte : BitVec 64) : Bool := pte &&& SPTE_MMU_PRESENT_MASK != 0

/-- An entry that is recognised as an MMIO entry only. -/
def MmioClass (spte : BitVec 64) : Prop :=
  is_mmio_spte spte = true ∧ is_shadow_present_pte spte = false ∧ is_removed_spte spte = false

/-- An entry that is recognised as a present entry only. -/
def PresentClass (spte : BitVec 64) : Prop :=
  is_shadow_present_pte spte = true ∧ is_mmio_spte spte = false ∧ is_removed_spte spte = false

/-! ## Bit 11 -/

/-- The present bit. -/
theorem is_shadow_present_pte_eq (pte : BitVec 64) : is_shadow_present_pte pte = pte.getLsbD 11 := by
  have hmask : SPTE_MMU_PRESENT_MASK = BitVec.twoPow 64 11 := by decide
  unfold is_shadow_present_pte
  rw [hmask, BitVec.and_twoPow]
  cases pte.getLsbD 11 with
  | true => decide
  | false => rfl

/-- `is_mmio_spte` is the test for a present entry. -/
theorem is_mmio_spte_eq (pte : BitVec 64) : is_mmio_spte pte = is_shadow_present_pte pte := rfl

/-- A present entry is not the frozen one. -/
theorem not_removed_of_present {pte : BitVec 64} (h : is_shadow_present_pte pte = true) :
    is_removed_spte pte = false := by
  unfold is_removed_spte
  rw [beq_eq_false_iff_ne]
  rintro rfl
  rw [is_shadow_present_pte_removed] at h
  cases h

theorem SPTE_MMU_PRESENT_MASK_bit : SPTE_MMU_PRESENT_MASK.getLsbD 11 = true := by decide

theorem bit_or_left {spte : BitVec 64} (bits : BitVec 64) (h : spte.getLsbD 11 = true) :
    (spte ||| bits).getLsbD 11 = true := by
  rw [BitVec.getLsbD_or, h, Bool.true_or]

theorem bit_ite_or {c : Prop} [Decidable c] {spte : BitVec 64} (bits : BitVec 64)
    (h : spte.getLsbD 11 = true) : (if c then spte ||| bits else spte).getLsbD 11 = true := by
  split
  · exact bit_or_left bits h
  · exact h

theorem make_spte_present (host : SpteHost) (masks : PteMasks) (sp : KvmMmuPage)
    (pte_access : BitVec 32) (pfn : BitVec 64) (prefetch host_writable : Bool) :
    is_shadow_present_pte (make_spte host masks sp pte_access pfn prefetch host_writable).2 =
      true := by
  rw [is_shadow_present_pte_eq]
  unfold make_spte
  extract_lets level access spte ad present accessed access' x user large writable
  -- every step after the first adds bits to the entry
  have had : ad.getLsbD 11 = true := by
    unfold ad
    split
    · exact bit_or_left _ SPTE_MMU_PRESENT_MASK_bit
    · exact bit_ite_or _ SPTE_MMU_PRESENT_MASK_bit
  have haccessed : accessed.getLsbD 11 = true := bit_ite_or _ (bit_or_left _ had)
  have hx : x.getLsbD 11 = true := by
    unfold x
    split
    · exact bit_or_left _ haccessed
    · exact bit_or_left _ haccessed
  have hlarge : large.getLsbD 11 = true := bit_ite_or _ (bit_ite_or _ hx)
  exact bit_ite_or _ (bit_ite_or _ hlarge)

theorem make_nonleaf_spte_present (mm : Mm) (masks : SpteMasks) (child_pt : ℕ)
    (ad_disabled : Bool) :
    is_shadow_present_pte (make_nonleaf_spte mm masks child_pt ad_disabled) = true := by
  rw [is_shadow_present_pte_eq]
  unfold make_nonleaf_spte
  split
  · exact bit_or_left _ (bit_or_left _ SPTE_MMU_PRESENT_MASK_bit)
  · exact bit_or_left _ (bit_or_left _ SPTE_MMU_PRESENT_MASK_bit)

/-- The masks an MMIO entry is built from have bit 11 clear. -/
structure MmioMasksOk (masks : PteMasks) : Prop where
  value : masks.shadow_mmio_value.getLsbD 11 = false
  access : masks.shadow_mmio_access_mask.getLsbD 11 = false
  rsvd : masks.shadow_nonpresent_or_rsvd_mask = 0

theorem kvm_mmu_set_mmio_spte_mask_ok (allow : Bool) {value access_mask : BitVec 64}
    (mask : BitVec 64) {masks : PteMasks} (hvalue : value.getLsbD 11 = false)
    (haccess : access_mask.getLsbD 11 = false) (hrsvd : masks.shadow_nonpresent_or_rsvd_mask = 0) :
    MmioMasksOk (kvm_mmu_set_mmio_spte_mask allow value mask access_mask masks) := by
  refine ⟨?_, haccess, hrsvd⟩
  unfold kvm_mmu_set_mmio_spte_mask
  dsimp only
  split
  · rfl
  · split
    · rfl
    · exact hvalue

/-- Every configuration keeps bit 11 out of the MMIO masks. -/
theorem Established.mmio_ok {masks : PteMasks} (h : Established masks) : MmioMasksOk masks := by
  induction h with
  | reset allow phys_bits masks =>
    refine kvm_mmu_set_mmio_spte_mask_ok allow _ ?_ (by decide) rfl
    split
    · decide
    · rfl
  | ept allow has_ad_bits has_exec_only masks _ ih =>
    exact kvm_mmu_set_mmio_spte_mask_ok allow _ (by decide) (by decide) ih.rsvd

theorem make_mmio_spte_not_present {masks : PteMasks} (h : MmioMasksOk masks)
    (generation gfn : BitVec 64) (access : BitVec 32) :
    is_shadow_present_pte (make_mmio_spte masks generation gfn access) = false := by
  have hlow : MMIO_SPTE_GEN_LOW_MASK.getLsbD 11 = false := by decide
  have hhigh : MMIO_SPTE_GEN_HIGH_MASK.getLsbD 11 = false := by decide
  have hgen : ∀ gen, (generation_mmio_spte_mask gen).getLsbD 11 = false := by
    intro gen
    unfold generation_mmio_spte_mask
    rw [BitVec.getLsbD_or, BitVec.getLsbD_and, BitVec.getLsbD_and, hlow, hhigh, Bool.and_false,
      Bool.and_false]
    rfl
  have hgpa : (gfn <<< PAGE_SHIFT).getLsbD 11 = false := by
    rw [BitVec.getLsbD_shiftLeft]
    rfl
  rw [is_shadow_present_pte_eq]
  unfold make_mmio_spte
  simp only [BitVec.getLsbD_or, hgen, h.value, hgpa, h.rsvd, BitVec.getLsbD_setWidth,
    BitVec.getLsbD_and, h.access]
  simp

/-! ## The tests -/

/-- **The test for MMIO entries is wrong on every entry.** Under every configuration the MMIO
entries, for any generation, frame and access, are not present and yet fail the test for MMIO
entries; the entries of `make_spte` and `make_nonleaf_spte` are present and not frozen, and all of
them pass it. -/
theorem spte_classes_never {masks : PteMasks} (h : Established masks) :
    (∀ generation gfn access,
      is_shadow_present_pte (make_mmio_spte masks generation gfn access) = false ∧
        ¬ MmioClass (make_mmio_spte masks generation gfn access)) ∧
    (∀ host sp pte_access pfn prefetch host_writable,
      is_shadow_present_pte (make_spte host masks sp pte_access pfn prefetch host_writable).2 =
          true ∧
        is_removed_spte (make_spte host masks sp pte_access pfn prefetch host_writable).2 = false ∧
        ¬ PresentClass (make_spte host masks sp pte_access pfn prefetch host_writable).2) ∧
    ∀ mm child_pt ad_disabled,
      is_shadow_present_pte (make_nonleaf_spte mm masks.toSpteMasks child_pt ad_disabled) = true ∧
        is_removed_spte (make_nonleaf_spte mm masks.toSpteMasks child_pt ad_disabled) = false ∧
        ¬ PresentClass (make_nonleaf_spte mm masks.toSpteMasks child_pt ad_disabled) := by
  have hnot : ∀ {spte}, is_shadow_present_pte spte = true → ¬ PresentClass spte := by
    rintro spte hpresent ⟨-, hmmio, -⟩
    rw [is_mmio_spte_eq, hpresent] at hmmio
    cases hmmio
  refine ⟨?_, ?_, ?_⟩
  · intro generation gfn access
    have hpresent := make_mmio_spte_not_present h.mmio_ok generation gfn access
    refine ⟨hpresent, ?_⟩
    rintro ⟨hmmio, -⟩
    rw [is_mmio_spte_eq, hpresent] at hmmio
    cases hmmio
  · intro host sp pte_access pfn prefetch host_writable
    have hpresent := make_spte_present host masks sp pte_access pfn prefetch host_writable
    exact ⟨hpresent, not_removed_of_present hpresent, hnot hpresent⟩
  · intro mm child_pt ad_disabled
    have hpresent := make_nonleaf_spte_present mm masks.toSpteMasks child_pt ad_disabled
    exact ⟨hpresent, not_removed_of_present hpresent, hnot hpresent⟩

/-- The globals before the module sets them. -/
def zero_masks : PteMasks := ⟨⟨0, 0, 0, 0, 0, 0, 0, 0⟩, 0, 0, 0, 0, 0, 0, true⟩

/-- EPT with accessed bits, on a processor with 46 physical address bits. -/
def ept_masks (allow_mmio_caching : Bool) : PteMasks :=
  kvm_mmu_set_ept_pte_masks allow_mmio_caching true false
    (kvm_mmu_reset_all_pte_masks allow_mmio_caching 46 zero_masks)

theorem ept_masks_established (allow_mmio_caching : Bool) :
    Established (ept_masks allow_mmio_caching) :=
  Established.ept _ _ _ _ (Established.reset _ _ _)

/-- The local APIC page as an MMIO entry, and the entry of a table at address 4096. -/
theorem spte_classes_ept :
    ¬ MmioClass (make_mmio_spte (ept_masks true) 2 0xfee00 7) ∧
      ¬ PresentClass (make_nonleaf_spte flatMm (ept_masks true).toSpteMasks 4096 false) :=
  ⟨((spte_classes_never (ept_masks_established true)).1 2 0xfee00 7).2,
    ((spte_classes_never (ept_masks_established true)).2.2 flatMm 4096 false).2.2⟩

/-- The same MMIO entry is not recognised, and the table entry passes for an MMIO entry. With MMIO
caching switched off an MMIO entry of frame 0 can moreover be the frozen value. -/
theorem mmio_spte_not_recognised :
    is_mmio_spte (make_mmio_spte (ept_masks true) 2 0xfee00 7) = false ∧
      is_mmio_spte (make_nonleaf_spte flatMm (ept_masks true).toSpteMasks 4096 false) = true ∧
      is_removed_spte (make_mmio_spte (ept_masks false) 0xb4 0 7) = true := by
  decide

end Svmx
