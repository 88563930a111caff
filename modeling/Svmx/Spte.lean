/-
Shadow page-table entries and the headers of the pages that hold them: the bits of `spte.h`, the
constructors of `spte.c` that the TDP code uses, and `struct kvm_mmu_page`.

An SPTE is a 64-bit word. Bit 11 says that the MMU considers it present, bit 7 that it maps a
huge page, bits 12 to 51 hold the frame. `MmGetPhysicalAddress` and `MmGetVirtualForPhysical`
are kernel services; they are the two fields of `Mm`, and what the code relies on about them is
stated where it is used.
-/
import Mathlib.Tactic.Common
import Svmx.Hpage

set_option autoImplicit false

namespace Svmx

/-! ## The bits -/

def PT_WRITABLE_MASK : BitVec 64 := 1 <<< 1
def PT_PAGE_SIZE_MASK : BitVec 64 := 1 <<< 7
def SPTE_MMU_PRESENT_MASK : BitVec 64 := 1 <<< 11
def SPTE_BASE_ADDR_MASK : BitVec 64 := ((1 <<< 52) - 1) &&& ~~~4095
def SPTE_TDP_AD_MASK : BitVec 64 := 3 <<< 52
def SPTE_TDP_AD_DISABLED : BitVec 64 := 1 <<< 52
def REMOVED_SPTE : BitVec 64 := 0x5a0

def SPTE_ENT_PER_PAGE : ℕ := 512

/-- `SPTE_INDEX(address, level)`. -/
def SPTE_INDEX (address level : ℕ) : ℕ := address / 2 ^ (PAGE_SHIFT + (level - 1) * 9) % 512

def is_large_pte (pte : BitVec 64) : Bool := pte &&& PT_PAGE_SIZE_MASK != 0

def is_last_spte (pte : BitVec 64) (level : ℕ) : Bool := level == PG_LEVEL_4K || is_large_pte pte

def is_shadow_present_pte (pte : BitVec 64) : Bool := pte &&& SPTE_MMU_PRESENT_MASK != 0

def spte_to_pfn (pte : BitVec 64) : BitVec 64 := (pte &&& SPTE_BASE_ADDR_MASK) >>> 12

def is_removed_spte (spte : BitVec 64) : Bool := spte == REMOVED_SPTE

/-- The frame shifted back is the masked entry. -/
theorem spte_to_pfn_shift (pte : BitVec 64) :
    spte_to_pfn pte <<< 12 = pte &&& SPTE_BASE_ADDR_MASK := by
  apply BitVec.eq_of_getLsbD_eq
  intro i hi
  have hmask : i < 12 → SPTE_BASE_ADDR_MASK.getLsbD i = false := by
    have h : ∀ j : Fin 12, SPTE_BASE_ADDR_MASK.getLsbD j.val = false := by decide
    exact fun h12 => h ⟨i, h12⟩
  rw [spte_to_pfn, BitVec.getLsbD_shiftLeft, BitVec.getLsbD_ushiftRight]
  by_cases h12 : i < 12
  · simp [h12, hmask h12]
  · have : 12 + (i - 12) = i := by omega
    simp [hi, h12, this]

@[simp] theorem is_shadow_present_pte_removed : is_shadow_present_pte REMOVED_SPTE = false := by
  decide

@[simp] theorem is_shadow_present_pte_zero : is_shadow_present_pte 0#64 = false := by decide

/-! ## The masks of the running host -/

/-- The `shadow_*` globals of `spte.c` that an entry is built from and tested with. -/
structure SpteMasks where
  shadow_present_mask : BitVec 64
  shadow_user_mask : BitVec 64
  shadow_x_mask : BitVec 64
  shadow_me_value : BitVec 64
  shadow_accessed_mask : BitVec 64
  shadow_dirty_mask : BitVec 64
  shadow_acc_track_mask : BitVec 64
  shadow_mmu_writable_mask : BitVec 64
deriving DecidableEq

/-- `kvm_mmu_set_ept_masks`. `shadow_me_value` stays as `kvm_mmu_reset_all_pte_masks` left it. -/
def kvm_mmu_set_ept_masks (has_ad_bits has_exec_only : Bool) : SpteMasks where
  shadow_present_mask := if has_exec_only then 0 else 0x1
  shadow_user_mask := 0x1
  shadow_x_mask := 0x4
  shadow_me_value := 0
  shadow_accessed_mask := if has_ad_bits then 1 <<< 8 else 0
  shadow_dirty_mask := if has_ad_bits then 1 <<< 9 else 0
  shadow_acc_track_mask := 0x7
  shadow_mmu_writable_mask := 1 <<< 58

def kvm_ad_enabled (masks : SpteMasks) : Bool := masks.shadow_accessed_mask != 0

/-- The kernel's address translations. -/
structure Mm where
  phys : ℕ → BitVec 64
  virt : BitVec 64 → ℕ

/-- A host on which addresses are their own translation. -/
def flatMm : Mm where
  phys a := BitVec.ofNat 64 a
  virt p := p.toNat

/-- `make_nonleaf_spte`: the entry that points to the page table at `child_pt`. -/
def make_nonleaf_spte (mm : Mm) (masks : SpteMasks) (child_pt : ℕ) (ad_disabled : Bool) :
    BitVec 64 :=
  let spte := SPTE_MMU_PRESENT_MASK
  let spte := spte ||| (mm.phys child_pt ||| masks.shadow_present_mask ||| PT_WRITABLE_MASK |||
    masks.shadow_user_mask ||| masks.shadow_x_mask ||| masks.shadow_me_value)
  if ad_disabled then spte ||| SPTE_TDP_AD_DISABLED else spte ||| masks.shadow_accessed_mask

/-- `spte_to_child_pt`; `0` is `NULL`. -/
def spte_to_child_pt (mm : Mm) (spte : BitVec 64) (level : ℕ) : ℕ :=
  if !is_shadow_present_pte spte || is_last_spte spte level then 0
  else mm.virt (spte_to_pfn spte <<< 12)

/-! ## Page headers -/

/-- `union kvm_mmu_page_role`: one word, the bit fields are read off it. -/
structure KvmMmuPageRole where
  word : BitVec 32
deriving DecidableEq

def KvmMmuPageRole.level (role : KvmMmuPageRole) : ℕ := role.word.toNat % 16
def KvmMmuPageRole.direct (role : KvmMmuPageRole) : Bool := role.word.getLsbD 7
def KvmMmuPageRole.smm (role : KvmMmuPageRole) : ℕ := role.word.toNat / 2 ^ 24

def kvm_mmu_role_as_id (role : KvmMmuPageRole) : ℕ := if role.smm = 0 then 0 else 1

/-- The fields of `struct kvm_mmu_page` that the TDP code reads or writes. `tdp_mmu_root_count` is
a 32-bit `LONG` updated by interlocked operations. -/
structure KvmMmuPage where
  role : KvmMmuPageRole
  gfn : ℕ
  spt : ℕ
  shadowed_translation : ℕ
  tdp_mmu_page : Bool
  nx_huge_page_disallowed : Bool
  mmu_valid_gen : ℕ
  tdp_mmu_root_count : BitVec 32
deriving DecidableEq

def kvm_mmu_page_as_id (sp : KvmMmuPage) : ℕ := kvm_mmu_role_as_id sp.role

end Svmx
