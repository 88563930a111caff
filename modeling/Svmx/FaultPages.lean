/-
The page headers and page tables that one TDP page fault takes (`tdp_mmu_alloc_sp` in
`kvm_tdp_mmu_map` of `tdp_mmu.c`).

`TdpMap` is given the pages of the caches as a list. Here the call takes them from the caches, and
from the pool where a cache has run out, and what it has taken is kept also when it faults. A walk
takes one page a level at most, and so after a top-up all of them are in the caches, and the call is
the one of `TdpMap` (`map_loop_cached_spec`).
-/
import Svmx.MemoryCache
import Svmx.TdpFixed

set_option autoImplicit false

namespace Svmx.Tdp

open RetPf LoadStatus

/-! ## Taking pages -/

/-- The caches of a vCPU and the pool, with the pages that a fault has taken so far. -/
structure SpAlloc where
  mmu_page_header_cache : KvmMmuMemoryCache
  mmu_shadow_page_cache : KvmMmuMemoryCache
  mmu_shadowed_info_cache : KvmMmuMemoryCache
  pool : List ℕ
  taken : List SpBlocks

/-- A fault begins with the caches of its vCPU. -/
def spAlloc (st : LoadState) : SpAlloc where
  mmu_page_header_cache := st.vcpu.mmu_page_header_cache
  mmu_shadow_page_cache := st.vcpu.mmu_shadow_page_cache
  mmu_shadowed_info_cache := st.vcpu.mmu_shadowed_info_cache
  pool := st.pool
  taken := []

/-- `tdp_mmu_alloc_sp`: a header and then a page table. -/
def tdp_mmu_alloc_sp (a : SpAlloc) : SpBlocks × SpAlloc :=
  let (sp, header_cache, pool) := kvm_mmu_memory_cache_alloc a.mmu_page_header_cache a.pool
  let (spt, page_cache, pool) := kvm_mmu_memory_cache_alloc a.mmu_shadow_page_cache pool
  (⟨sp, spt⟩, { a with
    mmu_page_header_cache := header_cache
    mmu_shadow_page_cache := page_cache
    pool := pool
    taken := a.taken ++ [⟨sp, spt⟩] })

/-- The pages in the caches, in the order in which they are taken. -/
def SpAlloc.blocks (a : SpAlloc) : List SpBlocks :=
  List.zipWith SpBlocks.mk (a.mmu_page_header_cache.objects.getD [])
    (a.mmu_shadow_page_cache.objects.getD [])

/-- A cache without its first `n` objects. -/
def KvmMmuMemoryCache.drop (mc : KvmMmuMemoryCache) (n : ℕ) : KvmMmuMemoryCache :=
  { mc with objects := mc.objects.map (List.drop n) }

/-- `n` pages have been taken from the caches. -/
def SpAlloc.took (a : SpAlloc) (n : ℕ) : SpAlloc :=
  { a with
    mmu_page_header_cache := a.mmu_page_header_cache.drop n
    mmu_shadow_page_cache := a.mmu_shadow_page_cache.drop n
    taken := a.taken ++ a.blocks.take n }

theorem KvmMmuMemoryCache.drop_zero (mc : KvmMmuMemoryCache) : mc.drop 0 = mc := by
  obtain ⟨capacity, _ | objs⟩ := mc
  · rfl
  · rfl

theorem KvmMmuMemoryCache.drop_drop (mc : KvmMmuMemoryCache) (m n : ℕ) :
    (mc.drop m).drop n = mc.drop (m + n) := by
  obtain ⟨capacity, _ | objs⟩ := mc
  · rfl
  · simp [KvmMmuMemoryCache.drop, List.drop_drop]

theorem KvmMmuMemoryCache.drop_objects (mc : KvmMmuMemoryCache) (n : ℕ) :
    (mc.drop n).objects.getD [] = (mc.objects.getD []).drop n := by
  obtain ⟨capacity, _ | objs⟩ := mc
  · exact List.drop_nil.symm
  · rfl

theorem SpAlloc.took_zero (a : SpAlloc) : a.took 0 = a := by
  simp [SpAlloc.took, KvmMmuMemoryCache.drop_zero]

theorem SpAlloc.took_blocks (a : SpAlloc) (n : ℕ) : (a.took n).blocks = a.blocks.drop n := by
  unfold SpAlloc.blocks SpAlloc.took
  dsimp only
  rw [KvmMmuMemoryCache.drop_objects, KvmMmuMemoryCache.drop_objects, List.drop_zipWith]

theorem SpAlloc.took_took (a : SpAlloc) (m n : ℕ) : (a.took m).took n = a.took (m + n) := by
  have hblocks := a.took_blocks m
  unfold SpAlloc.took at hblocks ⊢
  simp only [hblocks, KvmMmuMemoryCache.drop_drop, List.append_assoc, ← List.take_add]

/-- **Taking a page** while the caches have one. -/
theorem tdp_mmu_alloc_sp_spec {a : SpAlloc} {b : SpBlocks} {blocks : List SpBlocks}
    (h : a.blocks = b :: blocks) :
    tdp_mmu_alloc_sp a = (b, a.took 1) ∧ (a.took 1).blocks = blocks := by
  refine ⟨?_, by rw [a.took_blocks, h, List.drop_succ_cons, List.drop_zero]⟩
  have hfull : ∀ mc : KvmMmuMemoryCache, ∀ obj objs, mc.objects.getD [] = obj :: objs →
      mc.objects = some (obj :: objs) := by
    rintro ⟨capacity, _ | l⟩ obj objs hobjs
    · cases hobjs
    · exact congrArg some hobjs
  have hzip := h
  unfold SpAlloc.blocks at hzip
  rcases hsp : a.mmu_page_header_cache.objects.getD [] with _ | ⟨sp, sps⟩
  · rw [hsp] at hzip
    cases hzip
  · rcases hspt : a.mmu_shadow_page_cache.objects.getD [] with _ | ⟨spt, spts⟩
    · rw [hsp, hspt] at hzip
      cases hzip
    · rw [hsp, hspt, List.zipWith_cons_cons] at hzip
      obtain ⟨rfl, -⟩ := List.cons.inj hzip
      have hdrop : ∀ mc : KvmMmuMemoryCache, ∀ obj objs, mc.objects.getD [] = obj :: objs →
          mc.drop 1 = { mc with objects := some objs } := by
        intro mc obj objs hobjs
        unfold KvmMmuMemoryCache.drop
        rw [hfull mc obj objs hobjs]
        rfl
      unfold tdp_mmu_alloc_sp SpAlloc.took
      rw [kvm_mmu_memory_cache_alloc_cons (hfull _ _ _ hsp) a.pool]
      dsimp only
      rw [kvm_mmu_memory_cache_alloc_cons (hfull _ _ _ hspt) a.pool, h, hdrop _ _ _ hsp,
        hdrop _ _ _ hspt]
      rfl

/-! ## The map -/

section Map

variable (mm : Mm) (masks : PteMasks) (host : SpteHost) (sptep_to_sp : Sptep → ℕ)

/-- The loop of `kvm_tdp_mmu_map`, with what it has taken. -/
def map_loop_cached (generation : BitVec 64) : ℕ → KvmPageFault → TdpIter → SpAlloc → MapState →
    Option (RetPf × MapState) × SpAlloc
  | 0, _, _, a, _ => (none, a)
  | fuel + 1, fault, iter, a, st =>
    if !in_map_range fault iter then (some (RET_PF_RETRY, st), a)
    else
      match adjust_disallowed mm fault iter st with
      | none => (none, a)
      | some fault =>
        match map_round fault iter with
        | .retry => (some (RET_PF_RETRY, st), a)
        | .map_target_level =>
          ((tdp_mmu_map_handle_target_level masks host sptep_to_sp generation fault iter st).map
            fun ret => (ret, st), a)
        | .step_down =>
          match tdp_iter_next winHpage mm st.tdp.m iter with
          | none => (none, a)
          | some iter => map_loop_cached generation fuel fault iter a st
        | .link =>
          let (b, a) := tdp_mmu_alloc_sp a
          match map_link mm masks sptep_to_sp fault iter b st with
          | none => (none, a)
          | some (r, iter, st) =>
            if r ≠ 0 then (some (RET_PF_RETRY, tdp_mmu_free_sp b st), a)
            else
              match tdp_iter_next winHpage mm st.tdp.m iter with
              | none => (none, a)
              | some iter => map_loop_cached generation fuel fault iter a st

/-- `kvm_tdp_mmu_map` on the root `root_hpa`, with what it has taken. -/
def kvm_tdp_mmu_map_cached (generation : BitVec 64) (max_huge_page_level fuel : ℕ)
    (root_hpa : BitVec 64) (iter : TdpIter) (fault : KvmPageFault) (st : MapState) (a : SpAlloc) :
    Option (RetPf × MapState) × SpAlloc :=
  match kvm_mmu_hugepage_adjust max_huge_page_level fault with
  | none => (none, a)
  | some fault =>
    match st.headers (to_shadow_page mm root_hpa) with
    | none => (none, a)
    | some root =>
      match tdp_iter_start winHpage st.tdp.m iter root PG_LEVEL_4K fault.gfn with
      | none => (none, a)
      | some iter => map_loop_cached mm masks host sptep_to_sp generation fuel fault iter a st

end Map

variable {mm : Mm} {R root : ℕ} {masks : PteMasks} {host : SpteHost} {sptep_to_sp : Sptep → ℕ}

/-- **The walk** takes one page a level at most, from the caches, and comes to the same as on the list
of their pages. -/
theorem map_loop_cached_spec {has_ad_bits has_exec_only : Bool} {generation : BitVec 64}
    {fault : KvmPageFault} (hR : R ≤ 5)
    (hmasks : masks.toSpteMasks = kvm_mmu_set_ept_masks has_ad_bits has_exec_only)
    (hgfn : fault.gfn < 2 ^ 52) (hgoal : fault.goal_level = PG_LEVEL_4K) (l : ℕ) :
    ∀ (fuel : ℕ) (it : TdpIter) (a : SpAlloc) (st : MapState) (q : List ℕ) (up : ℕ → ℕ),
      PageTree mm st.tdp.m R root → OnMapWay mm st.tdp.m R root fault.gfn l q up it →
      FreshBlocks mm st.tdp.m a.blocks → l ≤ a.blocks.length →
      ∃ n ≤ l, map_loop_cached mm masks host sptep_to_sp generation fuel fault it a st =
        (map_loop mm masks host sptep_to_sp generation fuel fault it a.blocks st, a.took n) := by
  -- on the levels that are left below the entry; a round takes a page only where it goes down one
  induction l with
  | zero =>
    intro fuel it a st q up htree hway hfresh hlen
    refine ⟨0, Nat.le_refl 0, ?_⟩
    rw [a.took_zero]
    cases fuel with
    | zero => rfl
    | succ fuel =>
      rw [map_loop, map_loop_cached, hway.in_range hgfn, adjust_disallowed_spec hgoal]
      simp only [Bool.not_true, Bool.false_eq_true, if_false, Option.bind_eq_bind,
        Option.bind_some]
      rcases hway.round_last hgoal with hround | hround
      · rw [hround]
      · rw [hround]
        dsimp only
        rw [Option.map_eq_bind]
        rfl
  | succ l ih =>
    intro fuel it a st q up htree hway hfresh hlen
    cases fuel with
    | zero => exact ⟨0, Nat.zero_le _, by rw [a.took_zero]; rfl⟩
    | succ fuel =>
      rw [map_loop, map_loop_cached, hway.in_range hgfn, adjust_disallowed_spec hgoal]
      simp only [Bool.not_true, Bool.false_eq_true, if_false, Option.bind_eq_bind,
        Option.bind_some]
      rcases @OnMapWay.round mm R root masks sptep_to_sp has_ad_bits has_exec_only fault l q up it st
        hR hmasks hgfn hgoal htree hway with hround | ⟨hround, it', q', up', hnext, hway'⟩ |
        ⟨hround, hlinks⟩
      · rw [hround]
        exact ⟨0, Nat.zero_le _, by rw [a.took_zero]⟩
      · rw [hround]
        dsimp only
        rw [hnext]
        obtain ⟨n, hn, hrest⟩ := ih fuel it' a st q' up' htree hway' hfresh (by omega)
        exact ⟨n, by omega, hrest⟩
      · rw [hround]
        rcases hblocks : a.blocks with _ | ⟨b, blocks⟩
        · rw [hblocks] at hlen
          cases hlen
        · obtain ⟨halloc, hrest⟩ := tdp_mmu_alloc_sp_spec hblocks
          rw [hblocks] at hfresh hlen
          dsimp only
          rw [halloc]
          rcases hlink : map_link mm masks sptep_to_sp fault it b st with _ | ⟨r, it₁, st₁⟩
          · exact ⟨1, by omega, rfl⟩
          · obtain ⟨rfl, rfl, hnew⟩ := hlinks b blocks hfresh r it₁ st₁ hlink
            obtain ⟨it', q', up', hnext, hway'⟩ := hnew.down
            rw [List.length_cons] at hlen
            obtain ⟨n, hn, hloop⟩ := ih fuel it' (a.took 1) st₁ q' up' hnew.tree hway'
              (by rw [hrest]; exact hnew.fresh) (by rw [hrest]; omega)
            rw [hrest, a.took_took] at hloop
            refine ⟨1 + n, by omega, ?_⟩
            simp only [Option.bind_some, ne_eq, not_true, if_false, hnext]
            exact hloop

/-! ## What a call takes -/

/-- All that was taken comes from the caches, and is memory. -/
structure FromCaches (a a' : SpAlloc) : Prop where
  cached : a'.taken <+: a.blocks
  nonnull : ∀ b ∈ a'.taken, b.sp ≠ 0 ∧ b.spt ≠ 0

/-- The caches of the vCPU are as calls of the two functions have left them. -/
structure CachesRun (vcpu : TdpVcpu) : Prop where
  headers : ∃ pool ops, (live pool).Nodup ∧
    (∀ min : ℤ, .topup min ∈ ops → min ≤ KVM_ARCH_NR_OBJS_PER_MEMORY_CACHE) ∧
    vcpu.mmu_page_header_cache = (cacheRun pool ops).mc
  tables : ∃ pool ops, (live pool).Nodup ∧
    (∀ min : ℤ, .topup min ∈ ops → min ≤ KVM_ARCH_NR_OBJS_PER_MEMORY_CACHE) ∧
    vcpu.mmu_shadow_page_cache = (cacheRun pool ops).mc

/-- Enough pages for a fault: one a level, and all of them memory. -/
structure Supplied (a : SpAlloc) : Prop where
  enough : PT64_ROOT_MAX_LEVEL ≤ a.blocks.length
  nonnull : ∀ b ∈ a.blocks, b.sp ≠ 0 ∧ b.spt ≠ 0

/-- A first call that succeeds hands on to the second. -/
theorem andThen_success {x : LoadStatus × LoadState} {f : LoadState → LoadStatus × LoadState}
    {st : LoadState} (h : andThen x f = (STATUS_SUCCESS, st)) :
    ∃ st', x = (STATUS_SUCCESS, st') ∧ f st' = (STATUS_SUCCESS, st) := by
  obtain ⟨r, st'⟩ := x
  cases r with
  | STATUS_SUCCESS => exact ⟨st', rfl, h⟩
  | STATUS_NO_MEMORY => cases h
  | STATUS_IO_DEVICE_ERROR => cases h

/-- A cache that a successful top-up was made for. -/
theorem topup_success {get : TdpVcpu → KvmMmuMemoryCache}
    {set : KvmMmuMemoryCache → TdpVcpu → TdpVcpu} {st st' : LoadState} {min : ℕ}
    (hget : ∀ mc vcpu, get (set mc vcpu) = mc) (hok : CacheOk (get st.vcpu))
    (hmin : min ≤ KVM_ARCH_NR_OBJS_PER_MEMORY_CACHE)
    (h : topup get set min st = (STATUS_SUCCESS, st')) :
    CacheOk (get st'.vcpu) ∧ min ≤ (get st'.vcpu).nobjs := by
  obtain ⟨hok', hiff⟩ := kvm_mmu_topup_memory_cache_ok hok hmin st.pool
  unfold topup at h
  obtain ⟨hr, rfl⟩ := Prod.mk.inj h
  rw [hget]
  exact ⟨hok', hiff.mp hr⟩

/-- **After the top-ups** there are enough pages for a fault. -/
theorem mmu_topup_memory_caches_supplied {maybe_indirect : Bool} {st st' : LoadState}
    (hrun : CachesRun st.vcpu)
    (h : mmu_topup_memory_caches maybe_indirect st = (STATUS_SUCCESS, st')) :
    Supplied (spAlloc st') := by
  obtain ⟨pool₁, ops₁, hpool₁, hops₁, hheaders⟩ := hrun.headers
  obtain ⟨pool₂, ops₂, hpool₂, hops₂, htables⟩ := hrun.tables
  have hok₁ := (cacheRun_inv hpool₁ hops₁).ok
  have hok₂ := (cacheRun_inv hpool₂ hops₂).ok
  rw [← hheaders] at hok₁
  rw [← htables] at hok₂
  have hmin : PT64_ROOT_MAX_LEVEL ≤ KVM_ARCH_NR_OBJS_PER_MEMORY_CACHE := by decide
  obtain ⟨s₁, h₁, h⟩ := andThen_success h
  obtain ⟨s₂, h₂, h⟩ := andThen_success h
  obtain ⟨s₃, h₃, h⟩ := andThen_success h
  -- each top-up leaves the other caches
  have e₁ : s₁.vcpu.mmu_shadow_page_cache = st.vcpu.mmu_shadow_page_cache ∧
      s₁.vcpu.mmu_page_header_cache = st.vcpu.mmu_page_header_cache := by
    obtain ⟨-, rfl⟩ := Prod.mk.inj h₁
    exact ⟨rfl, rfl⟩
  have e₂ : s₂.vcpu.mmu_page_header_cache = s₁.vcpu.mmu_page_header_cache := by
    obtain ⟨-, rfl⟩ := Prod.mk.inj h₂
    rfl
  have e₃ : s₃.vcpu.mmu_shadow_page_cache = s₂.vcpu.mmu_shadow_page_cache ∧
      s₃.vcpu.mmu_page_header_cache = s₂.vcpu.mmu_page_header_cache := by
    split at h₃
    · obtain ⟨-, rfl⟩ := Prod.mk.inj h₃
      exact ⟨rfl, rfl⟩
    · obtain ⟨-, rfl⟩ := Prod.mk.inj h₃
      exact ⟨rfl, rfl⟩
  have e₄ : st'.vcpu.mmu_shadow_page_cache = s₃.vcpu.mmu_shadow_page_cache := by
    obtain ⟨-, rfl⟩ := Prod.mk.inj h
    rfl
  obtain ⟨htok, htlen⟩ := @topup_success TdpVcpu.mmu_shadow_page_cache _ _ _ _ (fun _ _ => rfl)
    (by rw [e₁.1]; exact hok₂) hmin h₂
  obtain ⟨hhok, hhlen⟩ := @topup_success TdpVcpu.mmu_page_header_cache _ _ _ _ (fun _ _ => rfl)
    (by rw [e₃.2, e₂, e₁.2]; exact hok₁) hmin h
  rw [← e₃.1, ← e₄] at htok htlen
  refine ⟨?_, fun b hb => ?_⟩
  · unfold SpAlloc.blocks
    rw [List.length_zipWith]
    exact Nat.le_min.mpr ⟨hhlen, htlen⟩
  · obtain ⟨sp, hsp, spt, hspt, rfl⟩ : ∃ sp ∈ st'.vcpu.mmu_page_header_cache.objects.getD [],
        ∃ spt ∈ st'.vcpu.mmu_shadow_page_cache.objects.getD [], SpBlocks.mk sp spt = b := by
      unfold SpAlloc.blocks at hb
      rw [← List.map_uncurry_zip_eq_zipWith] at hb
      obtain ⟨⟨sp, spt⟩, hmem, rfl⟩ := List.mem_map.mp hb
      obtain ⟨hsp, hspt⟩ := List.of_mem_zip hmem
      exact ⟨sp, hsp, spt, hspt, rfl⟩
    refine ⟨?_, ?_⟩
    · rintro rfl
      exact hhok.nonnull hsp
    · rintro rfl
      exact htok.nonnull hspt

/-- The first pages of full caches. -/
theorem Supplied.took {a a' : SpAlloc} (h : Supplied a) {n : ℕ} (hnew : a.taken = [])
    (htaken : a'.taken = (a.took n).taken) : FromCaches a a' := by
  have htake : a'.taken = a.blocks.take n := by
    rw [htaken]
    unfold SpAlloc.took
    rw [hnew, List.nil_append]
  refine ⟨?_, fun b hb => ?_⟩
  · rw [htake]
    exact List.take_prefix n a.blocks
  · rw [htake] at hb
    exact h.nonnull b (List.mem_of_mem_take hb)

/-- A fault as it comes to the mapping. -/
structure MapFault (fault : KvmPageFault) : Prop where
  slot : fault.slot.isSome ∨ is_error_noslot_pfn fault.pfn = true
  goal : fault.goal_level = PG_LEVEL_4K
  max : 1 ≤ fault.max_level
  gfn : fault.gfn < 2 ^ 52

/-- **One call of `kvm_tdp_mmu_map`** takes what it needs from full caches. -/
theorem kvm_tdp_mmu_map_from_caches {has_ad_bits has_exec_only : Bool} {generation : BitVec 64}
    {max_huge_page_level fuel : ℕ} {root_hpa : BitVec 64} {iter : TdpIter} {fault : KvmPageFault}
    {st : MapState} {root : KvmMmuPage} {a : SpAlloc}
    (hmasks : masks.toSpteMasks = kvm_mmu_set_ept_masks has_ad_bits has_exec_only)
    (hhuge : 1 ≤ max_huge_page_level) (hfault : MapFault fault)
    (hroot : st.headers (to_shadow_page mm root_hpa) = some root)
    (hlevel : root.role.level = 4 ∨ root.role.level = 5)
    (htree : PageTree mm st.tdp.m root.role.level root.spt)
    (hblocks : FreshBlocks mm st.tdp.m a.blocks) (hnew : a.taken = []) (hsupplied : Supplied a) :
    FromCaches a (kvm_tdp_mmu_map_cached mm masks host sptep_to_sp generation max_huge_page_level fuel
      root_hpa iter fault st a).2 := by
  have hnone : FromCaches a a := hsupplied.took hnew (n := 0) (by rw [a.took_zero])
  unfold kvm_tdp_mmu_map_cached
  rcases hadjust : kvm_mmu_hugepage_adjust max_huge_page_level fault with _ | fault'
  · exact hnone
  · dsimp only
    rw [hroot]
    obtain ⟨hgfn', hgoal'⟩ := kvm_mmu_hugepage_adjust_spec hhuge hfault.max hadjust
    have hgfn : fault'.gfn < 2 ^ 52 := by
      rw [hgfn']
      exact hfault.gfn
    dsimp only
    rcases hstart : tdp_iter_start winHpage st.tdp.m iter root PG_LEVEL_4K fault'.gfn with _ | it
    · exact hnone
    · obtain ⟨l, hl⟩ : ∃ l, root.role.level = l + 1 := ⟨root.role.level - 1, by omega⟩
      have hway := OnMapWay.start hl (by omega) hgfn htree hstart
      have henough := hsupplied.enough
      have h5 : PT64_ROOT_MAX_LEVEL = 5 := rfl
      obtain ⟨n, -, hloop⟩ := @map_loop_cached_spec mm _ _ masks host sptep_to_sp _ _ generation
        fault' (by omega) hmasks hgfn (by rw [hgoal', hfault.goal]) l fuel it a st [] _ htree hway
        hblocks (by omega)
      dsimp only
      rw [hloop]
      exact hsupplied.took hnew rfl

end Svmx.Tdp
