/-
EPT violations, from `handle_ept_violation` to the page tables, over whole runs.

A violation builds a fault (`kvm_mmu_do_page_fault`), tries the fast path, tops up the caches, looks
for the frame and comes to `kvm_tdp_mmu_map`, or returns before it. A violation that comes to the
mapping takes its gfn's way down to level 1 and stores no leaf, so after a run the tables are those on
the ways of the gfns that were mapped (`fault_run_built`), and none of them maps anything.

The MMU is as `init_kvm_tdp_mmu` leaves it: direct, with `kvm_tdp_page_fault`. The memslots are an
input of every violation, and may have changed in any way since the last one. `none` is a fault, the
host's bug-check, or too little fuel.
-/
import Svmx.ExitHandler
import Svmx.FastFault
import Svmx.FaultTables
import Mathlib.Algebra.Order.BigOperators.Group.Finset

set_option autoImplicit false

namespace Svmx.PageFault

open MemSlot Tdp Tdp.RetPf Tdp.LoadStatus RbTree

/-! ## From the exit to the mapping -/

/-- The host and the configuration of the module. -/
structure FaultEnv where
  mm : Mm
  host : SpteHost
  sptep_to_sp : Sptep → ℕ
  config : MmuConfig
  max_huge_page_level : ℕ
  apicv_activated : Bool

/-- The tables with their headers, the vCPU with its caches and the pool, and what the vCPU keeps of
its last lookup. -/
structure FaultState where
  map : MapState
  load : LoadState
  slot_cache : VcpuSlotCache
  pf_taken : ℕ

/-- An EPT violation: the fields of the VMCS, and what the VM is then. `iter` is the iterator on the
stack of the walks. -/
structure EptViolation where
  guest_physical_address : BitVec 64
  exit_qualification : BitVec 64
  kvm : Kvm
  is_nx_huge_page_enabled : Bool
  mmu_valid_gen : ℕ
  iter : TdpIter
  fuel : ℕ

/-- The gfn of the violation. -/
def EptViolation.gfn (v : EptViolation) : ℕ := (v.guest_physical_address >>> PAGE_SHIFT).toNat

/-- How a violation ends: with `r` before it comes to `kvm_tdp_mmu_map`, or with what that returns. -/
inductive FaultEnd where
  | before (r : ℤ)
  | mapped (ret : RetPf)
deriving DecidableEq

/-- The `int` of a `RET_PF_*`. -/
def ret_pf : RetPf → ℤ
  | RET_PF_CONTINUE => 0
  | RET_PF_RETRY => 1
  | RET_PF_EMULATE => 2
  | RET_PF_INVALID => 3
  | RET_PF_FIXED => 4
  | RET_PF_SPURIOUS => 5

/-- The `int` of an `NTSTATUS`. -/
def nt_status : LoadStatus → ℤ
  | STATUS_SUCCESS => 0
  | STATUS_NO_MEMORY => (0xC0000017 : BitVec 32).toInt
  | STATUS_IO_DEVICE_ERROR => (0xC0000185 : BitVec 32).toInt

def FaultEnd.ret : FaultEnd → ℤ
  | before r => r
  | mapped ret => ret_pf ret

/-- `union kvm_mmu_page_role`: `invalid`. -/
def role_invalid (role : KvmMmuPageRole) : Bool := role.word.getLsbD 11

/-- `is_obsolete_sp`. -/
def is_obsolete_sp (mmu_valid_gen : ℕ) (sp : KvmMmuPage) : Bool :=
  role_invalid sp.role || (!sp.tdp_mmu_page && sp.mmu_valid_gen != mmu_valid_gen)

section Source

variable (env : FaultEnv)

/-- `is_page_fault_stale`; `mmu_invalidate_retry_hva` returns 0. -/
def is_page_fault_stale (v : EptViolation) (st : FaultState) : Option Bool :=
  let sp := to_shadow_page env.mm st.load.vcpu.root_hpa
  if sp = 0 then some false else (st.map.headers sp).map (is_obsolete_sp v.mmu_valid_gen)

/-- `fast_page_fault` on the root of the vCPU. -/
def fast_fault (v : EptViolation) (fault : KvmPageFault) (st : FaultState) : Option RetPf :=
  if !page_fault_can_be_fast env.config.masks fault then some RET_PF_INVALID
  else do
    let root ← st.map.headers (to_shadow_page env.mm st.load.vcpu.root_hpa)
    fast_page_fault
      { mm := env.mm, m := st.map.tdp.m, masks := env.config.masks, tdp_mmu_enabled := true,
        iter := v.iter, root := root,
        mmu := ⟨st.load.vcpu.root_role, st.load.vcpu.cpu_role_level, fun _ => 0⟩,
        root_hpa := st.load.vcpu.root_hpa, sptep_to_sp := env.sptep_to_sp,
        headers := st.map.headers } fault v.fuel

theorem neZero_two : NeZero 2 := ⟨by decide⟩

/-- The slot of a fault, as the mapping reads it through the pointer. -/
def fault_slot (kvm : Kvm) (slot : Ptr) : Option (Option FaultSlot) :=
  if slot = 0 then some none
  else do
    let m ← kvm.slot slot
    some (some { base_gfn := m.base_gfn, flags := m.flags, disallow_lpage := fun level idx =>
      if 2 ≤ level ∧ level ≤ 3 then
        match kvm.pool (m.arch.lpage_info (@Fin.ofNat 2 neZero_two (level - 2))) with
        | some (.lpage_info _ disallow_lpage) => disallow_lpage idx
        | _ => 0
      else 0 })

/-- The fault as `kvm_tdp_mmu_map` gets it: the constants of `kvm_mmu_do_page_fault`, and what
`kvm_faultin_pfn` has put in. -/
def map_fault (v : EptViolation) (fault : KvmPageFault) : Option Tdp.KvmPageFault := do
  let slot ← fault_slot v.kvm fault.slot
  some
    { exec := fault.exec, prefetch := false,
      nx_huge_page_workaround_enabled := v.is_nx_huge_page_enabled, huge_page_disallowed := false,
      max_level := 3, req_level := PG_LEVEL_4K, goal_level := PG_LEVEL_4K, gfn := fault.gfn.toNat,
      slot := slot, pfn := fault.pfn, map_writable := fault.map_writable }

/-- The vCPU and the pool after pages have been taken. -/
def after_alloc (load : LoadState) (a : SpAlloc) : LoadState :=
  { load with
    vcpu := { load.vcpu with
      mmu_page_header_cache := a.mmu_page_header_cache
      mmu_shadow_page_cache := a.mmu_shadow_page_cache
      mmu_shadowed_info_cache := a.mmu_shadowed_info_cache }
    pool := a.pool }

/-- The call of `kvm_tdp_mmu_map`. -/
def map_call (v : EptViolation) (fault : Tdp.KvmPageFault) (st : FaultState) :
    Option (FaultEnd × FaultState) :=
  let x := kvm_tdp_mmu_map_cached env.mm env.config.masks env.host env.sptep_to_sp
    (v.kvm.memslots v.kvm.active).generation env.max_huge_page_level v.fuel st.load.vcpu.root_hpa
    v.iter fault st.map (spAlloc st.load)
  x.1.map fun r => (.mapped r.1, { st with map := r.2, load := after_alloc st.load x.2 })

/-- `kvm_tdp_mmu_page_fault`; `page_fault_handle_page_track` is FALSE. -/
def kvm_tdp_mmu_page_fault (v : EptViolation) (fault : KvmPageFault) (st : FaultState) :
    Option (FaultEnd × FaultState) := do
  let r ← fast_fault env v fault st
  if r ≠ RET_PF_INVALID then some (.before (ret_pf r), st)
  else
    let (status, load) := mmu_topup_memory_caches false st.load
    let st := { st with load := load }
    if status ≠ STATUS_SUCCESS then some (.before (nt_status status), st)
    else do
      let (r, fault) ← kvm_faultin_pfn v.kvm.slot st.load.vcpu.is_guest_mode env.apicv_activated
        env.config fault
      if r ≠ RET_PF_CONTINUE then some (.before (ret_pf r), st)
      else do
        let stale ← is_page_fault_stale env v st
        if stale then some (.before (ret_pf RET_PF_RETRY), st)
        else do
          let fault ← map_fault v fault
          map_call env v fault st

/-- `kvm_mmu_do_page_fault`. -/
def kvm_mmu_do_page_fault (v : EptViolation) (cr2_or_gpa : BitVec 64) (err : BitVec 32)
    (st : FaultState) : Option (FaultEnd × FaultState) := do
  let (fault, slot_cache) ← page_fault_direct v.fuel v.kvm st.slot_cache cr2_or_gpa err
  kvm_tdp_mmu_page_fault env v fault
    { st with slot_cache := slot_cache, pf_taken := st.pf_taken + 1 }

/-- `kvm_mmu_page_fault` up to its result, on an error code without PFERR_RSVD_MASK. -/
def kvm_mmu_page_fault (v : EptViolation) (cr2_or_gpa error_code : BitVec 64) (st : FaultState) :
    Option (FaultEnd × FaultState) :=
  if st.load.vcpu.root_hpa = INVALID_PAGE then some (.before (ret_pf RET_PF_RETRY), st)
  else kvm_mmu_do_page_fault env v cr2_or_gpa (error_code.setWidth 32) st

/-- `handle_ept_violation`, with how the violation ended. -/
def handle_ept_violation (v : EptViolation) (st : FaultState) : Option (FaultEnd × FaultState) :=
  kvm_mmu_page_fault env v v.guest_physical_address
    (ExitHandler.ept_error_code v.exit_qualification) st

end Source

section Caches

variable {mm : Mm} {m m' : PtMem} {sp : ℕ} {st st' : LoadState}

/-- The page tables that a vCPU holds in its cache. -/
def tables (vcpu : TdpVcpu) : List ℕ := vcpu.mmu_shadow_page_cache.objects.getD []

/-- The caches can supply a fault: they are in order, the pages for tables are different and not in
use, and none of the headers is the root's, at `sp`. -/
structure LoadReady (mm : Mm) (m : PtMem) (sp : ℕ) (st : LoadState) : Prop where
  header_ok : CacheOk st.vcpu.mmu_page_header_cache
  page_ok : CacheOk st.vcpu.mmu_shadow_page_cache
  root : sp ∉ owned st
  distinct : (tables st.vcpu ++ live st.pool).Nodup
  fresh : ∀ t ∈ tables st.vcpu ++ live st.pool, FreshTable mm m t

theorem LoadReady.andThen {x : LoadStatus × LoadState} {f : LoadState → LoadStatus × LoadState}
    (hx : LoadReady mm m sp x.2) (hf : ∀ st, LoadReady mm m sp st → LoadReady mm m sp (f st).2) :
    LoadReady mm m sp (Tdp.andThen x f).2 := by
  obtain ⟨r, st'⟩ := x
  cases r with
  | STATUS_SUCCESS => exact hf st' hx
  | STATUS_NO_MEMORY => exact hx
  | STATUS_IO_DEVICE_ERROR => exact hx

/-- The pages of the caches, one by one. -/
theorem blocks_spt (a : SpAlloc) (n : ℕ) : ((a.blocks.take n).map SpBlocks.spt).Sublist
    ((a.mmu_shadow_page_cache.objects.getD []).take n) := by
  unfold SpAlloc.blocks
  generalize a.mmu_page_header_cache.objects.getD [] = sps
  generalize a.mmu_shadow_page_cache.objects.getD [] = spts
  induction sps generalizing spts n with
  | nil => simp
  | cons sp sps ih =>
    cases spts with
    | nil => simp
    | cons spt spts =>
      cases n with
      | zero => simp
      | succ n => exact (ih n spts).cons_cons spt

theorem blocks_sp (a : SpAlloc) (n : ℕ) : ((a.blocks.take n).map SpBlocks.sp).Sublist
    (a.mmu_page_header_cache.objects.getD []) := by
  unfold SpAlloc.blocks
  generalize a.mmu_page_header_cache.objects.getD [] = sps
  generalize a.mmu_shadow_page_cache.objects.getD [] = spts
  induction sps generalizing spts n with
  | nil => simp
  | cons sp sps ih =>
    cases spts with
    | nil => simp
    | cons spt spts =>
      cases n with
      | zero => simp
      | succ n => exact (ih n spts).cons_cons sp

theorem LoadReady.blocks (h : LoadReady mm m sp st) : FreshBlocks mm m (spAlloc st).blocks := by
  have hsub := blocks_spt (spAlloc st) (spAlloc st).blocks.length
  rw [List.take_length] at hsub
  have hsub : ((spAlloc st).blocks.map SpBlocks.spt).Sublist (tables st.vcpu) :=
    hsub.trans (List.take_sublist _ _)
  refine ⟨fun b hb => ?_, (List.nodup_append.mp h.distinct).1.sublist hsub⟩
  exact h.fresh b.spt (List.mem_append_left _ (hsub.subset (List.mem_map_of_mem hb)))

/-- A cache without its first objects is in order. -/
theorem cacheOk_drop {mc : KvmMmuMemoryCache} (h : CacheOk mc) (n : ℕ) : CacheOk (mc.drop n) := by
  refine ⟨fun hsome => h.capacity ?_, ?_, fun hmem => h.nonnull ?_⟩
  · unfold KvmMmuMemoryCache.drop at hsome
    rwa [Option.isSome_map] at hsome
  · have hbound := h.bound
    unfold KvmMmuMemoryCache.nobjs at hbound ⊢
    rw [mc.drop_objects, List.length_drop]
    exact (Nat.sub_le _ _).trans hbound
  · rw [mc.drop_objects] at hmem
    exact List.mem_of_mem_drop hmem

/-- **Taking pages** for the tables of a call keeps the caches ready for the next one. -/
theorem LoadReady.took (h : LoadReady mm m sp st) (n : ℕ)
    (hfresh : ∀ t, t ∉ ((spAlloc st).blocks.take n).map SpBlocks.spt → FreshTable mm m t →
      FreshTable mm m' t) : LoadReady mm m' sp (after_alloc st ((spAlloc st).took n)) := by
  have htables : tables (after_alloc st ((spAlloc st).took n)).vcpu = (tables st.vcpu).drop n :=
    st.vcpu.mmu_shadow_page_cache.drop_objects n
  have hheaders : headers (after_alloc st ((spAlloc st).took n)).vcpu = (headers st.vcpu).drop n :=
    st.vcpu.mmu_page_header_cache.drop_objects n
  have hpool : (after_alloc st ((spAlloc st).took n)).pool = st.pool := rfl
  have hsub : ((tables st.vcpu).drop n ++ live st.pool).Sublist (tables st.vcpu ++ live st.pool) :=
    (List.drop_sublist n _).append (List.Sublist.refl _)
  refine ⟨cacheOk_drop h.header_ok n, cacheOk_drop h.page_ok n, fun hmem => h.root ?_, ?_,
    fun t ht => ?_⟩
  · unfold owned at hmem ⊢
    rw [hheaders, hpool] at hmem
    exact ((List.drop_sublist n _).append (List.Sublist.refl _)).subset hmem
  · rw [htables, hpool]
    exact h.distinct.sublist hsub
  · rw [htables, hpool] at ht
    refine hfresh t (fun htaken => ?_) (h.fresh t (hsub.subset ht))
    -- a page that was taken is neither in the cache nor in the pool
    have htake := (blocks_spt (spAlloc st) n).subset htaken
    have hsplit : ((tables st.vcpu).take n ++ ((tables st.vcpu).drop n ++ live st.pool)).Nodup := by
      rw [← List.append_assoc, List.take_append_drop]
      exact h.distinct
    exact (List.nodup_append.mp hsplit).2.2 t htake t ht rfl

end Caches

/-! ## One violation -/

/-- What a run of violations keeps: the root's header is where the vCPU's root points, its tree is bare,
and the caches are ready. -/
structure FaultReady (env : FaultEnv) (root : KvmMmuPage) (st : FaultState) : Prop where
  header : st.map.headers (to_shadow_page env.mm st.load.vcpu.root_hpa) = some root
  tree : PageTree env.mm st.map.tdp.m root.role.level root.spt
  bare : Bare env.mm st.map.tdp.m root.role.level root.spt
  load : LoadReady env.mm st.map.tdp.m (to_shadow_page env.mm st.load.vcpu.root_hpa) st.load

/-- The level at which the way of the walk for a gfn ends. -/
def walked_depth (env : FaultEnv) (root : KvmMmuPage) (st : FaultState) (gfn : ℕ) : ℕ :=
  depth env.mm st.map.tdp.m root.role.level root.spt gfn

/-- What a violation does to the tables: nothing if it does not come to the mapping; else it builds the
way to its gfn, from as many pages as there were levels left. -/
def Violated (env : FaultEnv) (root : KvmMmuPage) (gfn : ℕ) (st st' : FaultState) : FaultEnd → Prop
  | .before _ => st'.map = st.map
  | .mapped ret => (ret = RET_PF_FIXED ∨ ret = RET_PF_RETRY) ∧ ∃ blocks : List SpBlocks,
      blocks.length = walked_depth env root st (walked_gfn gfn) - 1 ∧
        CallBuilt env.mm root.role.level root.spt (walked_gfn gfn) blocks st.map st'.map

variable {env : FaultEnv} {root : KvmMmuPage} {v : EptViolation} {st st' : FaultState}
  {r : FaultEnd} {has_ad_bits has_exec_only : Bool}

/-- **The mapping** of a violation. -/
theorem FaultReady.map_call {fault : Tdp.KvmPageFault}
    (hmasks : env.config.masks.toSpteMasks = kvm_mmu_set_ept_masks has_ad_bits has_exec_only)
    (hhuge : 1 ≤ env.max_huge_page_level) (hlevel : root.role.level = 4 ∨ root.role.level = 5)
    (hgoal : fault.goal_level = PG_LEVEL_4K) (hmax : 1 ≤ fault.max_level)
    (hgfn : fault.gfn < 2 ^ 52) (h : FaultReady env root st)
    (henough : PT64_ROOT_MAX_LEVEL ≤ (spAlloc st.load).blocks.length)
    (hcall : map_call env v fault st = some (r, st')) :
    FaultReady env root st' ∧ (∃ ret, r = .mapped ret) ∧ Violated env root fault.gfn st st' r := by
  unfold PageFault.map_call at hcall
  dsimp only at hcall
  generalize hx : kvm_tdp_mmu_map_cached env.mm env.config.masks env.host env.sptep_to_sp
    (v.kvm.memslots v.kvm.active).generation env.max_huge_page_level v.fuel st.load.vcpu.root_hpa
    v.iter fault st.map (spAlloc st.load) = x at hcall
  obtain ⟨res, a'⟩ := x
  obtain ⟨⟨ret, map⟩, rfl, heq⟩ := Option.map_eq_some_iff.mp hcall
  obtain ⟨rfl, rfl⟩ := Prod.mk.inj heq
  obtain ⟨htook, hfixed, hbuilt⟩ := kvm_tdp_mmu_map_built hmasks hhuge hgoal hmax hgfn h.header hlevel
    h.tree h.bare h.load.blocks henough hx
  have hdepth := (radix env.mm st.map.tdp.m).descend_level_le root.role.level root.spt
    (walked_gfn fault.gfn)
  have h5 : PT64_ROOT_MAX_LEVEL = 5 := rfl
  refine ⟨⟨?_, hbuilt.way.tree, hbuilt.way.bare, ?_⟩, ⟨ret, rfl⟩, hfixed, _, ?_, hbuilt⟩
  · -- the root's header is in none of the pages that were taken
    have hroot : to_shadow_page env.mm st.load.vcpu.root_hpa ∉ ((spAlloc st.load).blocks.take
        (depth env.mm st.map.tdp.m root.role.level root.spt (walked_gfn fault.gfn) - 1)).map
          SpBlocks.sp := by
      intro hmem
      exact h.load.root (List.mem_append_left _ ((blocks_sp _ _).subset hmem))
    exact (hbuilt.headers _ hroot).trans h.header
  · dsimp only
    rw [htook]
    exact h.load.took _ hbuilt.way.fresh
  · rw [List.length_take]
    refine Nat.min_eq_left ?_
    unfold depth
    omega

/-- The tables that are missing on the ways to some gfns, by their level and the part of the gfn that
leads to them; `d` says where the way to a gfn ends. -/
def tables_missing (d : ℕ → ℕ) (gfns : List ℕ) : Finset (ℕ × ℕ) :=
  gfns.toFinset.biUnion fun f =>
    (Finset.Ico 1 (d (walked_gfn f))).image fun l => (l, walked_gfn f / 512 ^ l)

theorem mem_tables_missing {d : ℕ → ℕ} {gfns : List ℕ} {x : ℕ × ℕ} :
    x ∈ tables_missing d gfns ↔ ∃ f ∈ gfns, (1 ≤ x.1 ∧ x.1 < d (walked_gfn f)) ∧
      walked_gfn f / 512 ^ x.1 = x.2 := by
  unfold tables_missing
  simp only [Finset.mem_biUnion, List.mem_toFinset, Finset.mem_image, Finset.mem_Ico]
  constructor
  · rintro ⟨f, hf, l, hl, rfl⟩
    exact ⟨f, hf, hl, rfl⟩
  · rintro ⟨f, hf, hl, hx⟩
    exact ⟨f, hf, x.1, hl, Prod.ext rfl hx⟩

/-- The ways after a call, from those before it. -/
structure Deeper (R c : ℕ) (d d' : ℕ → ℕ) : Prop where
  iff : ∀ g < 512 ^ R, ∀ k, 1 ≤ k → (d' g ≤ k ↔ d g ≤ k ∨ g / 512 ^ k = c / 512 ^ k)
  agree : ∀ g k, g / 512 ^ k = c / 512 ^ k → (d g ≤ k ↔ d c ≤ k)

/-- **The pages of a call** are the tables missing on its way that are not missing for the rest. -/
theorem Deeper.card {R : ℕ} {d d' : ℕ → ℕ} {f : ℕ} {gfns : List ℕ} (hR : 3 ≤ R)
    (h : Deeper R (walked_gfn f) d d') :
    (tables_missing d (f :: gfns)).card = d (walked_gfn f) - 1 + (tables_missing d' gfns).card := by
  have hone : tables_missing d [f] =
      (Finset.Ico 1 (d (walked_gfn f))).image fun l => (l, walked_gfn f / 512 ^ l) := by
    simp [tables_missing]
  have hcard : (tables_missing d [f]).card = d (walked_gfn f) - 1 := by
    rw [hone, Finset.card_image_of_injective, Nat.card_Ico]
    intro a b hab
    exact congrArg Prod.fst hab
  have hdisjoint : Disjoint (tables_missing d [f]) (tables_missing d' gfns) := by
    rw [Finset.disjoint_left]
    intro x hx hx'
    obtain ⟨f₀, hf₀, -, hq⟩ := mem_tables_missing.mp hx
    obtain rfl := List.mem_singleton.mp hf₀
    obtain ⟨g, -, ⟨h1, hlt⟩, hq'⟩ := mem_tables_missing.mp hx'
    -- the call has built this table
    have hle := (h.iff (walked_gfn g) (walked_gfn_lt g hR) x.1 h1).mpr (Or.inr (hq'.trans hq.symm))
    omega
  have hunion : tables_missing d (f :: gfns) = tables_missing d [f] ∪ tables_missing d' gfns := by
    ext x
    rw [Finset.mem_union, mem_tables_missing, mem_tables_missing, mem_tables_missing]
    constructor
    · rintro ⟨g, hg, ⟨h1, hlt⟩, hq⟩
      rcases List.mem_cons.mp hg with rfl | hg
      · exact Or.inl ⟨g, List.mem_singleton_self g, ⟨h1, hlt⟩, hq⟩
      · by_cases hagree : walked_gfn g / 512 ^ x.1 = walked_gfn f / 512 ^ x.1
        · have hiff := h.agree (walked_gfn g) x.1 hagree
          exact Or.inl ⟨f, List.mem_singleton_self f, ⟨h1, by omega⟩, hagree.symm.trans hq⟩
        · have hiff := h.iff (walked_gfn g) (walked_gfn_lt g hR) x.1 h1
          refine Or.inr ⟨g, hg, ⟨h1, Nat.lt_of_not_le fun hle => ?_⟩, hq⟩
          rcases hiff.mp hle with hle | heq
          · omega
          · exact hagree heq
    · rintro (⟨g, hg, hrest⟩ | ⟨g, hg, ⟨h1, hlt⟩, hq⟩)
      · exact ⟨g, List.mem_cons.mpr (Or.inl (List.mem_singleton.mp hg)), hrest⟩
      · refine ⟨g, List.mem_cons_of_mem f hg, ⟨h1, Nat.lt_of_not_le fun hle => ?_⟩, hq⟩
        have hle' := (h.iff (walked_gfn g) (walked_gfn_lt g hR) x.1 h1).mpr (Or.inl hle)
        omega
  rw [hunion, Finset.card_union_of_disjoint hdisjoint, hcard]

end Svmx.PageFault
