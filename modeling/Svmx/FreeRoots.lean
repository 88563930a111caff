/-
Freeing the roots of an MMU (`kvm_mmu_free_roots`, `mmu.c`).

A mask selects the roots to free: bit 0 the current one, bit `1 + i` the previous root `i`. The
function first looks whether there is anything to do, a current root in a flag and the previous ones
in a scan, and then frees the previous roots in a loop. The flag is used for the early return only, so
a current root that is selected stays. A previous root is freed unless its address leads to no page.
`free_roots_right_iff` says when all the roots selected are gone and the others are as they were.
-/
import Svmx.ShadowPage

set_option autoImplicit false

namespace Svmx.FreeRoots

open Tdp ShadowPage

/-! ## The code -/

/-- `struct kvm_mmu_root_info`. -/
structure KvmMmuRootInfo where
  pgd : BitVec 64
  hpa : BitVec 64

def KVM_MMU_NUM_PREV_ROOTS : ℕ := 3

def KVM_MMU_ROOT_CURRENT : BitVec 32 := 1

def KVM_MMU_ROOT_PREVIOUS (i : ℕ) : BitVec 32 := 1 <<< (1 + i)

/-- The roots in `struct kvm_mmu`. -/
structure KvmMmuRoots where
  root : KvmMmuRootInfo
  prev_roots : Fin KVM_MMU_NUM_PREV_ROOTS → KvmMmuRootInfo

/-- `mmu_free_root_page`: what it leaves in `*root_hpa`. -/
def mmu_free_root_page (mm : Mm) (root_hpa : BitVec 64) : BitVec 64 :=
  if root_hpa = INVALID_PAGE then root_hpa
  else
    let sp := spte_to_child_sp mm root_hpa
    if sp = 0 then root_hpa else INVALID_PAGE

/-- The root whose address was passed to `mmu_free_root_page`. -/
def KvmMmuRootInfo.freed (info : KvmMmuRootInfo) (mm : Mm) : KvmMmuRootInfo :=
  { info with hpa := mmu_free_root_page mm info.hpa }

/-- The scan for a previous root that is selected and valid; `none` is an `i` that has come to
`KVM_MMU_NUM_PREV_ROOTS`. -/
def scan_prev_roots (mmu : KvmMmuRoots) (roots_to_free : BitVec 32) : Option (Fin KVM_MMU_NUM_PREV_ROOTS) :=
  (List.finRange KVM_MMU_NUM_PREV_ROOTS).find? fun i =>
    roots_to_free &&& KVM_MMU_ROOT_PREVIOUS i ≠ 0 ∧ (mmu.prev_roots i).hpa ≠ INVALID_PAGE

/-- The loop that frees the previous roots. -/
def free_prev_roots (mm : Mm) (roots_to_free : BitVec 32) :
    List (Fin KVM_MMU_NUM_PREV_ROOTS) → KvmMmuRoots → KvmMmuRoots
  | [], mmu => mmu
  | i :: is, mmu =>
    free_prev_roots mm roots_to_free is <|
      if roots_to_free &&& KVM_MMU_ROOT_PREVIOUS i ≠ 0 then
        { mmu with prev_roots := Function.update mmu.prev_roots i ((mmu.prev_roots i).freed mm) }
      else mmu

/-- `kvm_mmu_free_roots`. -/
def kvm_mmu_free_roots (mm : Mm) (mmu : KvmMmuRoots) (roots_to_free : BitVec 32) : KvmMmuRoots :=
  let free_active_root : Bool :=
    roots_to_free &&& KVM_MMU_ROOT_CURRENT ≠ 0 ∧ mmu.root.hpa ≠ INVALID_PAGE
  if !free_active_root && (scan_prev_roots mmu roots_to_free).isNone then mmu
  else free_prev_roots mm roots_to_free (List.finRange KVM_MMU_NUM_PREV_ROOTS) mmu

/-! ## What a call does -/

variable {mm : Mm} {mmu : KvmMmuRoots} {roots_to_free : BitVec 32}

/-- A root is gone if it was selected and is as it was if not. -/
def Freed (selected : Prop) (info info' : KvmMmuRootInfo) : Prop :=
  (selected → info'.hpa = INVALID_PAGE) ∧ (¬ selected → info' = info)

/-- Every root is as the mask says. -/
structure RootsFreed (roots_to_free : BitVec 32) (mmu mmu' : KvmMmuRoots) : Prop where
  current : Freed (roots_to_free &&& KVM_MMU_ROOT_CURRENT ≠ 0) mmu.root mmu'.root
  previous : ∀ i : Fin KVM_MMU_NUM_PREV_ROOTS, Freed
    (roots_to_free &&& KVM_MMU_ROOT_PREVIOUS i ≠ 0) (mmu.prev_roots i) (mmu'.prev_roots i)

/-- A root is gone after `mmu_free_root_page` if it was invalid, or leads to a page. -/
theorem mmu_free_root_page_iff (mm : Mm) (root_hpa : BitVec 64) :
    mmu_free_root_page mm root_hpa = INVALID_PAGE ↔
      (root_hpa ≠ INVALID_PAGE → spte_to_child_sp mm root_hpa ≠ 0) := by
  unfold mmu_free_root_page
  by_cases hinvalid : root_hpa = INVALID_PAGE
  · rw [if_pos hinvalid]
    exact iff_of_true hinvalid fun hvalid => absurd hinvalid hvalid
  · rw [if_neg hinvalid]
    by_cases hsp : spte_to_child_sp mm root_hpa = 0
    · rw [if_pos hsp]
      exact iff_of_false hinvalid fun hpage => hpage hinvalid hsp
    · rw [if_neg hsp]
      exact iff_of_true rfl fun _ => hsp

/-- The loop leaves the current root alone. -/
theorem free_prev_roots_root (is : List (Fin KVM_MMU_NUM_PREV_ROOTS)) (mmu : KvmMmuRoots) :
    (free_prev_roots mm roots_to_free is mmu).root = mmu.root := by
  induction is generalizing mmu with
  | nil => rfl
  | cons i is ih =>
    rw [free_prev_roots, ih]
    split
    · rfl
    · rfl

/-- **The loop** frees a previous root if its index comes up and it is selected. -/
theorem free_prev_roots_apply {is : List (Fin KVM_MMU_NUM_PREV_ROOTS)} (hnodup : is.Nodup)
    (mmu : KvmMmuRoots) (j : Fin KVM_MMU_NUM_PREV_ROOTS) :
    (free_prev_roots mm roots_to_free is mmu).prev_roots j =
      if j ∈ is ∧ roots_to_free &&& KVM_MMU_ROOT_PREVIOUS j ≠ 0 then (mmu.prev_roots j).freed mm
      else mmu.prev_roots j := by
  induction is generalizing mmu with
  | nil =>
    rw [if_neg fun h => List.not_mem_nil h.1]
    rfl
  | cons i is ih =>
    obtain ⟨hi, hnodup⟩ := List.nodup_cons.mp hnodup
    rw [free_prev_roots, ih hnodup]
    by_cases hj : j = i
    · -- this round is the only one for the root
      subst hj
      rw [if_neg fun h => hi h.1]
      by_cases hsel : roots_to_free &&& KVM_MMU_ROOT_PREVIOUS j ≠ 0
      · rw [if_pos hsel, if_pos ⟨List.mem_cons_self, hsel⟩]
        exact Function.update_self ..
      · rw [if_neg hsel, if_neg fun h => hsel h.2]
    · have hround : (if roots_to_free &&& KVM_MMU_ROOT_PREVIOUS i ≠ 0 then
          { mmu with prev_roots := Function.update mmu.prev_roots i ((mmu.prev_roots i).freed mm) }
          else mmu).prev_roots j = mmu.prev_roots j := by
        split
        · exact Function.update_of_ne hj _ _
        · rfl
      have hmem : j ∈ i :: is ↔ j ∈ is := by
        rw [List.mem_cons, or_iff_right hj]
      rw [hround]
      simp only [hmem]

/-- Where the scan finds nothing, there is nothing to free. -/
theorem scan_prev_roots_none (h : scan_prev_roots mmu roots_to_free = none)
    (i : Fin KVM_MMU_NUM_PREV_ROOTS) (hsel : roots_to_free &&& KVM_MMU_ROOT_PREVIOUS i ≠ 0) :
    (mmu.prev_roots i).hpa = INVALID_PAGE := by
  have hnone := List.find?_eq_none.mp h i (List.mem_finRange i)
  by_contra hvalid
  exact hnone (decide_eq_true ⟨hsel, hvalid⟩)

/-- **One call.** The current root stays, whether the function returns early or not; every previous
root that is selected goes through `mmu_free_root_page`. -/
theorem kvm_mmu_free_roots_spec (mm : Mm) (mmu : KvmMmuRoots) (roots_to_free : BitVec 32) :
    (kvm_mmu_free_roots mm mmu roots_to_free).root = mmu.root ∧
      ∀ i : Fin KVM_MMU_NUM_PREV_ROOTS, (kvm_mmu_free_roots mm mmu roots_to_free).prev_roots i =
        if roots_to_free &&& KVM_MMU_ROOT_PREVIOUS i ≠ 0 then (mmu.prev_roots i).freed mm
        else mmu.prev_roots i := by
  unfold kvm_mmu_free_roots
  dsimp only
  split
  · next hearly =>
    -- the loop would not change anything either
    refine ⟨rfl, fun i => ?_⟩
    have hnone : scan_prev_roots mmu roots_to_free = none := by
      rw [Bool.and_eq_true] at hearly
      exact Option.isNone_iff_eq_none.mp hearly.2
    by_cases hsel : roots_to_free &&& KVM_MMU_ROOT_PREVIOUS i ≠ 0
    · have hinvalid := scan_prev_roots_none hnone i hsel
      rw [if_pos hsel, KvmMmuRootInfo.freed, mmu_free_root_page, if_pos hinvalid]
    · rw [if_neg hsel]
  · refine ⟨free_prev_roots_root _ _, fun i => ?_⟩
    rw [free_prev_roots_apply (List.nodup_finRange _)]
    simp only [List.mem_finRange, true_and]

/-- The current root over any calls. -/
theorem root_kept (mm : Mm) (mmu : KvmMmuRoots) (masks : List (BitVec 32)) :
    (masks.foldl (kvm_mmu_free_roots mm) mmu).root = mmu.root := by
  induction masks generalizing mmu with
  | nil => rfl
  | cons roots_to_free masks ih =>
    rw [List.foldl_cons, ih]
    exact (kvm_mmu_free_roots_spec mm mmu roots_to_free).1

/-- **When the roots are freed**, for any roots and any mask: exactly if the current root is not
selected or was invalid already, and every previous root that is selected and valid leads to a page. -/
theorem free_roots_right_iff (mm : Mm) (mmu : KvmMmuRoots) (roots_to_free : BitVec 32) :
    RootsFreed roots_to_free mmu (kvm_mmu_free_roots mm mmu roots_to_free) ↔
      (roots_to_free &&& KVM_MMU_ROOT_CURRENT ≠ 0 → mmu.root.hpa = INVALID_PAGE) ∧
      ∀ i : Fin KVM_MMU_NUM_PREV_ROOTS, roots_to_free &&& KVM_MMU_ROOT_PREVIOUS i ≠ 0 →
        (mmu.prev_roots i).hpa ≠ INVALID_PAGE →
          spte_to_child_sp mm (mmu.prev_roots i).hpa ≠ 0 := by
  obtain ⟨hroot, hprev⟩ := kvm_mmu_free_roots_spec mm mmu roots_to_free
  constructor
  · intro h
    refine ⟨fun hsel => ?_, fun i hsel => ?_⟩
    · rw [← hroot]
      exact h.current.1 hsel
    · have hgone := (h.previous i).1 hsel
      rw [hprev i, if_pos hsel] at hgone
      exact (mmu_free_root_page_iff mm _).mp hgone
  · rintro ⟨hcurrent, hpages⟩
    refine ⟨⟨fun hsel => ?_, fun _ => hroot⟩, fun i => ⟨fun hsel => ?_, fun hsel => ?_⟩⟩
    · rw [hroot]
      exact hcurrent hsel
    · rw [hprev i, if_pos hsel]
      exact (mmu_free_root_page_iff mm _).mpr (hpages i hsel)
    · rw [hprev i, if_neg hsel]

/-- An MMU with a current root and no previous ones. -/
def loadedMmu : KvmMmuRoots where
  root := ⟨0, 0x7000⟩
  prev_roots _ := ⟨INVALID_PAGE, INVALID_PAGE⟩

/-- Freeing the current root leaves it valid. -/
theorem current_root_not_freed : ¬ RootsFreed KVM_MMU_ROOT_CURRENT loadedMmu
    (kvm_mmu_free_roots flatMm loadedMmu KVM_MMU_ROOT_CURRENT) := by
  intro h
  have hgone := h.current.1 (by decide)
  rw [(kvm_mmu_free_roots_spec _ _ _).1] at hgone
  exact absurd hgone (by decide)

end Svmx.FreeRoots
