/-
Handling a TDP page fault (`kvm_tdp_mmu_map` of `tdp_mmu.c`, with the functions of `mmu.c` that adjust
the fault).

The walk goes down the tree to the level that the fault asks for, and links a new table where the
tree ends above it. `tdp_mmu_map_handle_target_level` builds the entry of the page and drops it.

The page headers are looked up by address. `sptep_to_sp` is taken as it is, a function from entry
pointers to addresses of headers, `0` being `NULL`; the results hold whatever it answers. The caches
have been topped up, so `SpBlocks` are what `tdp_mmu_alloc_sp` takes from them, zeroed. `none` is a
fault, the host's bug-check, or too little fuel.
-/
import Svmx.RadixLink
import Svmx.ShadowPage
import Svmx.TdpChange
import Svmx.WinWalk

set_option autoImplicit false

namespace Svmx.Tdp

/-! ## The fault -/

/-- `RET_PF_*`. -/
inductive RetPf where
  | RET_PF_CONTINUE
  | RET_PF_RETRY
  | RET_PF_EMULATE
  | RET_PF_INVALID
  | RET_PF_FIXED
  | RET_PF_SPURIOUS
deriving DecidableEq

open RetPf

/-- What is read of the memslot of a fault; `disallow_lpage level idx` is the word of the entry
`lpage_info[level - 2][idx]`. -/
structure FaultSlot where
  base_gfn : ℕ
  flags : BitVec 32
  disallow_lpage : ℕ → ℕ → ℕ

/-- The fields of `struct kvm_page_fault` that the mapping reads or writes. -/
structure KvmPageFault where
  exec : Bool
  prefetch : Bool
  nx_huge_page_workaround_enabled : Bool
  huge_page_disallowed : Bool
  max_level : ℕ
  req_level : ℕ
  goal_level : ℕ
  gfn : ℕ
  slot : Option FaultSlot
  pfn : BitVec 64
  map_writable : Bool

def KVM_PFN_ERR_NOSLOT_MASK : BitVec 64 := 0xfff <<< 52

def is_error_noslot_pfn (pfn : BitVec 64) : Bool := pfn &&& KVM_PFN_ERR_NOSLOT_MASK != 0

def KVM_MEM_LOG_DIRTY_PAGES : BitVec 32 := 1 <<< 0

def kvm_slot_dirty_track_enabled (slot : FaultSlot) : Bool :=
  slot.flags &&& KVM_MEM_LOG_DIRTY_PAGES != 0

/-- The `disallow_lpage` word of `lpage_info_slot`. -/
def lpage_info_slot (gfn : ℕ) (slot : FaultSlot) (level : ℕ) : ℕ :=
  slot.disallow_lpage level (gfn_to_index gfn slot.base_gfn level)

/-- `host_pfn_mapping_level`. -/
def host_pfn_mapping_level : ℕ := PG_LEVEL_4K

/-- The loop of `kvm_mmu_max_mapping_level`. -/
def lpage_level (gfn : ℕ) (slot : FaultSlot) : ℕ → ℕ
  | 0 => 0
  | level + 1 =>
    if PG_LEVEL_4K < level + 1 ∧ lpage_info_slot gfn slot (level + 1) ≠ 0 then
      lpage_level gfn slot level
    else level + 1

/-- `kvm_mmu_max_mapping_level`. -/
def kvm_mmu_max_mapping_level (max_huge_page_level : ℕ) (slot : FaultSlot) (gfn max_level : ℕ) : ℕ :=
  let max_level := lpage_level gfn slot (min max_level max_huge_page_level)
  if max_level = PG_LEVEL_4K then PG_LEVEL_4K else min host_pfn_mapping_level max_level

/-- `kvm_mmu_hugepage_adjust`. -/
def kvm_mmu_hugepage_adjust (max_huge_page_level : ℕ) (fault : KvmPageFault) :
    Option KvmPageFault :=
  let fault := { fault with
    huge_page_disallowed := fault.exec && fault.nx_huge_page_workaround_enabled }
  if fault.max_level = PG_LEVEL_4K then some fault
  else if is_error_noslot_pfn fault.pfn then some fault
  else do
    let slot ← fault.slot
    if kvm_slot_dirty_track_enabled slot then some fault
    else
      let fault := { fault with
        req_level := kvm_mmu_max_mapping_level max_huge_page_level slot fault.gfn fault.max_level }
      if fault.req_level = PG_LEVEL_4K ∨ fault.huge_page_disallowed then some fault
      else
        let mask := BitVec.ofNat 64 (KVM_PAGES_PER_HPAGE fault.req_level - 1)
        some { fault with goal_level := fault.req_level, pfn := fault.pfn &&& ~~~mask }

/-- `disallowed_hugepage_adjust`; the difference of the two page counts is a 32-bit one. -/
def disallowed_hugepage_adjust (mm : Mm) (headers : ℕ → Option KvmMmuPage) (fault : KvmPageFault)
    (spte : BitVec 64) (cur_level : ℕ) : Option KvmPageFault :=
  if PG_LEVEL_4K < cur_level ∧ cur_level = fault.goal_level ∧ is_shadow_present_pte spte ∧
      !is_large_pte spte then do
    let sp ← headers (ShadowPage.spte_to_child_sp mm spte)
    if sp.nx_huge_page_disallowed then
      let page_mask :=
        (KVM_PAGES_PER_HPAGE cur_level + 2 ^ 32 - KVM_PAGES_PER_HPAGE (cur_level - 1)) % 2 ^ 32
      some { fault with
        pfn := fault.pfn ||| BitVec.ofNat 64 (fault.gfn &&& page_mask)
        goal_level := fault.goal_level - 1 }
    else some fault
  else some fault

/-! ## New tables -/

/-- The header and the page table of a page that comes from the caches. -/
structure SpBlocks where
  sp : ℕ
  spt : ℕ
deriving DecidableEq

/-- The page tables with an empty one at `t`. -/
def PtMem.alloc (m : PtMem) (t : ℕ) : PtMem where
  spt a := if a = t ∧ a ≠ 0 then some fun _ => 0 else m.spt a
  spt_null := by
    simp [m.spt_null]

/-- The tables, the counts, the page headers and `kvm->arch.tdp_mmu_pages`. -/
structure MapState where
  tdp : TdpState
  headers : ℕ → Option KvmMmuPage
  tdp_mmu_pages : BitVec 64

/-- `role.level--` on a field of four bits. -/
def role_level_dec (role : KvmMmuPageRole) : KvmMmuPageRole :=
  ⟨(role.word &&& ~~~0xf) ||| ((role.word - 1) &&& 0xf)⟩

section Map

variable (mm : Mm) (masks : PteMasks) (host : SpteHost) (sptep_to_sp : Sptep → ℕ)

/-- `sptep_to_sp(sptep)->…`. -/
def page_of_sptep (st : MapState) (sptep : Sptep) : Option KvmMmuPage :=
  st.headers (sptep_to_sp sptep)

/-- `tdp_mmu_alloc_sp`, `tdp_mmu_init_child_sp` and the assignment after them. -/
def alloc_child_sp (fault : KvmPageFault) (iter : TdpIter) (b : SpBlocks) (st : MapState) :
    Option MapState :=
  if b.sp = 0 then none
  else do
    let parent_sp ← page_of_sptep sptep_to_sp st iter.sptep
    let child_sp : KvmMmuPage :=
      { role := role_level_dec parent_sp.role, gfn := iter.gfn, spt := b.spt, shadowed_translation := 0,
        tdp_mmu_page := true, nx_huge_page_disallowed := fault.huge_page_disallowed,
        mmu_valid_gen := 0, tdp_mmu_root_count := 0 }
    some { st with
      tdp := { st.tdp with m := st.tdp.m.alloc b.spt }
      headers := Function.update st.headers b.sp (some child_sp) }

/-- `tdp_account_mmu_page`. -/
def tdp_account_mmu_page (st : MapState) : MapState :=
  { st with tdp_mmu_pages := st.tdp_mmu_pages + 1 }

/-- The entry that `tdp_mmu_link_sp` installs for a table. -/
def link_spte (spt : ℕ) : BitVec 64 :=
  make_nonleaf_spte mm masks.toSpteMasks spt (!kvm_ad_enabled masks.toSpteMasks)

/-- `tdp_mmu_set_spte_atomic` on the entry of an iterator. -/
def set_spte_atomic (iter : TdpIter) (new_spte : BitVec 64) (st : MapState) :
    Option (ℤ × MapState) := do
  let (r, tdp) ← tdp_mmu_set_spte_atomic mm (fun pt => page_of_sptep sptep_to_sp st ⟨pt, 0⟩)
    iter.level st.tdp iter.sptep iter.old_spte iter.level new_spte
  some (r, { st with tdp := tdp })

/-- `tdp_mmu_iter_set_spte`. -/
def tdp_mmu_iter_set_spte (iter : TdpIter) (new_spte : BitVec 64) (st : MapState) :
    Option (TdpIter × MapState) := do
  let (old_spte, tdp) ← tdp_mmu_set_spte mm masks.toSpteMasks
    (fun pt => page_of_sptep sptep_to_sp st ⟨pt, 0⟩) iter.level st.tdp iter.sptep iter.old_spte
    new_spte iter.level
  some ({ iter with old_spte := old_spte }, { st with tdp := tdp })

/-- `tdp_mmu_link_sp`: the status of the shared mode is dropped. -/
def tdp_mmu_link_sp (iter : TdpIter) (spt : ℕ) (shared : Bool) (st : MapState) :
    Option (ℤ × TdpIter × MapState) := do
  let spte := link_spte mm masks spt
  let (iter, st) ← if shared then
      (set_spte_atomic mm sptep_to_sp iter spte st).map fun (_, st) => (iter, st)
    else tdp_mmu_iter_set_spte mm masks sptep_to_sp iter spte st
  some (0, iter, tdp_account_mmu_page st)

/-- `tdp_mmu_split_huge_page`. -/
def tdp_mmu_split_huge_page (iter : TdpIter) (spt : ℕ) (shared : Bool) (st : MapState) :
    Option (ℤ × TdpIter × MapState) :=
  tdp_mmu_link_sp mm masks sptep_to_sp iter spt shared st

/-- `tdp_mmu_free_sp`. -/
def tdp_mmu_free_sp (b : SpBlocks) (st : MapState) : MapState :=
  { st with
    tdp := { st.tdp with
      m := { spt := fun a => if a = b.spt then none else st.tdp.m.spt a
             spt_null := by simp [st.tdp.m.spt_null] } }
    headers := Function.update st.headers b.sp none }

/-! ## The map -/

/-- `tdp_mmu_map_handle_target_level`; `generation` is that of the vCPU's memslots. -/
def tdp_mmu_map_handle_target_level (generation : BitVec 64) (fault : KvmPageFault) (iter : TdpIter)
    (st : MapState) : Option RetPf := do
  let sp ← page_of_sptep sptep_to_sp st iter.sptep
  if sp.role.level ≠ fault.goal_level then some RET_PF_RETRY
  else
    -- the new entry is built and not stored
    let _new_spte := match fault.slot with
      | none => make_mmio_spte masks generation (BitVec.ofNat 64 iter.gfn) (ACC_ALL.setWidth 32)
      | some _ => (make_spte host masks sp (ACC_ALL.setWidth 32) fault.pfn fault.prefetch
          fault.map_writable).2
    some RET_PF_FIXED

/-- The ways out of the checks at the head of the loop of `kvm_tdp_mmu_map`. -/
inductive MapRound where
  | retry
  | map_target_level
  | step_down
  | link
deriving DecidableEq

/-- The checks of the loop on the entry that the iterator holds. -/
def map_round (fault : KvmPageFault) (iter : TdpIter) : MapRound :=
  if is_removed_spte iter.old_spte then .retry
  else if iter.level = fault.goal_level then .map_target_level
  else if is_shadow_present_pte iter.old_spte && !is_large_pte iter.old_spte then .step_down
  else .link

/-- The `if` of the loop on `nx_huge_page_workaround_enabled`. -/
def adjust_disallowed (fault : KvmPageFault) (iter : TdpIter) (st : MapState) :
    Option KvmPageFault :=
  if fault.nx_huge_page_workaround_enabled then
    disallowed_hugepage_adjust mm st.headers fault iter.old_spte iter.level
  else some fault

/-- The condition of the loop. -/
def in_map_range (fault : KvmPageFault) (iter : TdpIter) : Bool :=
  iter.valid && iter.gfn < (fault.gfn + 1) % 2 ^ 64

/-- The table that the loop allocates, installed under an iterator. -/
def map_link (fault : KvmPageFault) (iter : TdpIter) (b : SpBlocks) (st : MapState) :
    Option (ℤ × TdpIter × MapState) := do
  let st ← alloc_child_sp sptep_to_sp fault iter b st
  if is_shadow_present_pte iter.old_spte then
    tdp_mmu_split_huge_page mm masks sptep_to_sp iter b.spt true st
  else tdp_mmu_link_sp mm masks sptep_to_sp iter b.spt true st

/-- The loop of `kvm_tdp_mmu_map`; `blocks` are the pages of the caches in the order they are
taken. -/
def map_loop (generation : BitVec 64) : ℕ → KvmPageFault → TdpIter → List SpBlocks → MapState →
    Option (RetPf × MapState)
  | 0, _, _, _, _ => none
  | fuel + 1, fault, iter, blocks, st =>
    if !in_map_range fault iter then some (RET_PF_RETRY, st)
    else do
      let fault ← adjust_disallowed mm fault iter st
      match map_round fault iter with
      | .retry => some (RET_PF_RETRY, st)
      | .map_target_level => do
        let ret ← tdp_mmu_map_handle_target_level masks host sptep_to_sp generation fault iter st
        some (ret, st)
      | .step_down => do
        let iter ← tdp_iter_next winHpage mm st.tdp.m iter
        map_loop generation fuel fault iter blocks st
      | .link =>
        match blocks with
        | [] => none
        | b :: blocks => do
          let (r, iter, st) ← map_link mm masks sptep_to_sp fault iter b st
          if r ≠ 0 then some (RET_PF_RETRY, tdp_mmu_free_sp b st)
          else do
            let iter ← tdp_iter_next winHpage mm st.tdp.m iter
            map_loop generation fuel fault iter blocks st

/-- `kvm_tdp_mmu_map` on the root `root_hpa`; `iter` is the uninitialised iterator. -/
def kvm_tdp_mmu_map (generation : BitVec 64) (max_huge_page_level fuel : ℕ) (root_hpa : BitVec 64)
    (iter : TdpIter) (blocks : List SpBlocks) (fault : KvmPageFault) (st : MapState) :
    Option (RetPf × MapState) := do
  let fault ← kvm_mmu_hugepage_adjust max_huge_page_level fault
  let root ← st.headers (to_shadow_page mm root_hpa)
  let iter ← tdp_iter_start winHpage st.tdp.m iter root PG_LEVEL_4K fault.gfn
  map_loop mm masks host sptep_to_sp generation fuel fault iter blocks st

end Map

end Svmx.Tdp
