/-
Runs on a page cache (`kvm_mmu_topup_memory_cache` and `kvm_mmu_memory_cache_alloc` of `kvm_main.c`).

A cache starts zeroed. Its array and its capacity come with the first top-up that gets memory, and
every top-up asks for the same capacity, so a cache that has an array has that capacity
(`CacheOk`). A pool that gives no block twice gives the cache distinct objects, and the objects that
were handed out, those in the cache and the pool's next answers stay apart (`CacheInv`).
-/
import Svmx.TdpRoot

set_option autoImplicit false

namespace Svmx.Tdp

open LoadStatus
open scoped List

/-! ## One cache -/

/-- A cache between two calls. -/
structure CacheOk (mc : KvmMmuMemoryCache) : Prop where
  capacity : mc.objects.isSome → mc.capacity = KVM_ARCH_NR_OBJS_PER_MEMORY_CACHE
  bound : mc.nobjs ≤ mc.capacity
  nonnull : 0 ∉ mc.objects.getD []

/-- A zeroed cache. -/
def zeroCache : KvmMmuMemoryCache := ⟨0, none⟩

theorem zeroCache_ok : CacheOk zeroCache := by
  refine ⟨fun h => ?_, Nat.le_refl 0, List.not_mem_nil⟩
  cases h

/-- The loop fills the room it has as far as the pool gives memory. -/
theorem fill_memory_cache_ok (min : ℕ) {room : ℕ} : ∀ {objs pool : List ℕ}, 0 ∉ objs →
    0 ∉ (fill_memory_cache min room objs pool).2.1 ∧
      (fill_memory_cache min room objs pool).2.1.length ≤ objs.length + room ∧
      (min ≤ objs.length + room → ((fill_memory_cache min room objs pool).1 = STATUS_SUCCESS ↔
        min ≤ (fill_memory_cache min room objs pool).2.1.length)) := by
  induction room with
  | zero =>
    intro objs pool h0
    exact ⟨h0, Nat.le_refl _, fun hmin => ⟨fun _ => hmin, fun _ => rfl⟩⟩
  | succ room ih =>
    intro objs pool h0
    -- the pool has nothing more
    have hfail : ∀ pool', ExAllocatePoolWithTag pool = (0, pool') →
        fill_memory_cache min (room + 1) objs pool =
          (if min ≤ objs.length then STATUS_SUCCESS else STATUS_NO_MEMORY, objs, pool') := by
      intro pool' halloc
      rw [fill_memory_cache, halloc]
      rfl
    rcases halloc : ExAllocatePoolWithTag pool with ⟨_ | obj, pool'⟩
    · rw [hfail pool' halloc]
      refine ⟨h0, by dsimp only; omega, fun _ => ?_⟩
      dsimp only
      split
      · next h => exact ⟨fun _ => h, fun _ => rfl⟩
      · next h => exact ⟨fun h' => LoadStatus.noConfusion h', fun h' => absurd h' h⟩
    · have hstep : fill_memory_cache min (room + 1) objs pool =
          fill_memory_cache min room ((obj + 1) :: objs) pool' := by
        rw [fill_memory_cache, halloc]
        rfl
      have h0' : 0 ∉ (obj + 1) :: objs := by
        rw [List.mem_cons, not_or]
        exact ⟨by omega, h0⟩
      obtain ⟨hnonnull, hlen, hstatus⟩ := @ih ((obj + 1) :: objs) pool' h0'
      rw [List.length_cons] at hlen hstatus
      rw [hstep]
      exact ⟨hnonnull, by omega, fun hmin => hstatus (by omega)⟩

/-- The second half of a top-up, on an array of the right capacity. -/
theorem fill_cache_array_ok {mc : KvmMmuMemoryCache} {objs : List ℕ} {min : ℕ} {pool : List ℕ}
    (hcap : mc.capacity = KVM_ARCH_NR_OBJS_PER_MEMORY_CACHE) (hlen : objs.length ≤ mc.capacity)
    (h0 : 0 ∉ objs) (hmin : min ≤ KVM_ARCH_NR_OBJS_PER_MEMORY_CACHE) :
    CacheOk (fill_cache_array mc objs KVM_ARCH_NR_OBJS_PER_MEMORY_CACHE min pool).2.1 ∧
      ((fill_cache_array mc objs KVM_ARCH_NR_OBJS_PER_MEMORY_CACHE min pool).1 = STATUS_SUCCESS ↔
        min ≤ (fill_cache_array mc objs KVM_ARCH_NR_OBJS_PER_MEMORY_CACHE min pool).2.1.nobjs) := by
  have hroom : objs.length + (mc.capacity - objs.length) = mc.capacity := by omega
  obtain ⟨hnonnull, hbound, hstatus⟩ :=
    @fill_memory_cache_ok min (mc.capacity - objs.length) objs pool h0
  rw [hroom] at hbound hstatus
  rw [fill_cache_array, if_neg (not_not.mpr hcap)]
  exact ⟨⟨fun _ => hcap, hbound, hnonnull⟩, hstatus (by omega)⟩

/-- **A top-up** keeps the cache in order, and it succeeds exactly when `min` objects are there. -/
theorem kvm_mmu_topup_memory_cache_ok {mc : KvmMmuMemoryCache} (h : CacheOk mc) {min : ℕ}
    (hmin : min ≤ KVM_ARCH_NR_OBJS_PER_MEMORY_CACHE) (pool : List ℕ) :
    CacheOk (kvm_mmu_topup_memory_cache mc min pool).2.1 ∧
      ((kvm_mmu_topup_memory_cache mc min pool).1 = STATUS_SUCCESS ↔
        min ≤ (kvm_mmu_topup_memory_cache mc min pool).2.1.nobjs) := by
  unfold kvm_mmu_topup_memory_cache topup_memory_cache
  split
  · next henough => exact ⟨h, fun _ => henough, fun _ => rfl⟩
  · next hfew =>
    cases hobjs : mc.objects with
    | some objs =>
      have hnonnull := h.nonnull
      have hbound := h.bound
      rw [KvmMmuMemoryCache.nobjs, hobjs, Option.getD_some] at hbound
      rw [hobjs, Option.getD_some] at hnonnull
      exact fill_cache_array_ok (h.capacity (by rw [hobjs]; rfl)) hbound hnonnull hmin
    | none =>
      dsimp only
      rw [if_neg (by decide)]
      rcases halloc : ExAllocatePoolWithTag pool with ⟨_ | array, pool'⟩
      · exact ⟨h, fun h' => LoadStatus.noConfusion h', fun h' => absurd h' hfew⟩
      · exact fill_cache_array_ok rfl (Nat.zero_le _) List.not_mem_nil hmin

/-- Taking an object from a cache that has one. -/
theorem kvm_mmu_memory_cache_alloc_cons {mc : KvmMmuMemoryCache} {obj : ℕ} {objs : List ℕ}
    (h : mc.objects = some (obj :: objs)) (pool : List ℕ) :
    kvm_mmu_memory_cache_alloc mc pool = (obj, { mc with objects := some objs }, pool) := by
  unfold kvm_mmu_memory_cache_alloc
  rw [h]

/-- Taking an object from an empty cache. -/
theorem kvm_mmu_memory_cache_alloc_nil {mc : KvmMmuMemoryCache} (h : mc.objects.getD [] = [])
    (pool : List ℕ) : kvm_mmu_memory_cache_alloc mc pool =
      ((ExAllocatePoolWithTag pool).1, mc, (ExAllocatePoolWithTag pool).2) := by
  unfold kvm_mmu_memory_cache_alloc
  rcases hobjs : mc.objects with _ | _ | ⟨obj, objs⟩
  · rfl
  · rfl
  · rw [hobjs] at h
    cases h

/-! ## Runs -/

/-- The calls on a cache. The `int` of a top-up may be negative. -/
inductive CacheOp where
  | topup (min : ℤ)
  | alloc

/-- A cache, the pool, and what was handed out, the last object first; `0` is an allocation that
failed. -/
structure CacheState where
  mc : KvmMmuMemoryCache
  pool : List ℕ
  handed : List ℕ

/-- One call. -/
def cacheStep (s : CacheState) : CacheOp → CacheState
  | .topup min =>
    let (_, mc, pool) := kvm_mmu_topup_memory_cache s.mc min.toNat s.pool
    { s with mc := mc, pool := pool }
  | .alloc =>
    let (obj, mc, pool) := kvm_mmu_memory_cache_alloc s.mc s.pool
    { mc := mc, pool := pool, handed := obj :: s.handed }

/-- A sequence of calls on a zeroed cache. -/
def cacheRun (pool : List ℕ) (ops : List CacheOp) : CacheState :=
  ops.foldl cacheStep ⟨zeroCache, pool, []⟩

/-- The cache is in order, and no object is in two places. -/
structure CacheInv (s : CacheState) : Prop where
  ok : CacheOk s.mc
  distinct : (live s.handed ++ (s.mc.objects.getD [] ++ live s.pool)).Nodup

/-- What has fewer objects than a list without repetitions has none either. -/
theorem nodup_of_subperm {l l' : List ℕ} (h : l <+~ l') (hl : l'.Nodup) : l.Nodup := by
  obtain ⟨k, hperm, hsub⟩ := h
  exact hperm.nodup_iff.mp (hl.sublist hsub)

/-- An allocation moves an object to what was handed out. -/
theorem kvm_mmu_memory_cache_alloc_moves (mc : KvmMmuMemoryCache) (pool handed : List ℕ) :
    live ((kvm_mmu_memory_cache_alloc mc pool).1 :: handed) ++
        ((kvm_mmu_memory_cache_alloc mc pool).2.1.objects.getD [] ++
          live (kvm_mmu_memory_cache_alloc mc pool).2.2) <+~
      live handed ++ (mc.objects.getD [] ++ live pool) := by
  have hcons : ∀ obj rest, (live (obj :: handed) ++ rest) <+~ (live handed ++ obj :: rest) := by
    intro obj rest
    by_cases h0 : obj = 0
    · subst h0
      rw [show live (0 :: handed) = live handed from rfl]
      exact ((List.Sublist.refl _).append (List.sublist_cons_self 0 rest)).subperm
    · rw [live_cons _ _ h0]
      exact List.perm_middle.symm.subperm
  cases hobjs : mc.objects.getD [] with
  | cons obj objs =>
    have hsome : mc.objects = some (obj :: objs) := by
      cases h : mc.objects with
      | none =>
        rw [h] at hobjs
        cases hobjs
      | some l =>
        rw [h] at hobjs
        exact congrArg some hobjs
    rw [kvm_mmu_memory_cache_alloc_cons hsome]
    exact hcons obj (objs ++ live pool)
  | nil =>
    rw [kvm_mmu_memory_cache_alloc_nil hobjs, hobjs]
    rcases pool with _ | ⟨a, pool⟩
    · exact List.Subperm.refl _
    · by_cases h0 : a = 0
      · subst h0
        exact List.Subperm.refl _
      · rw [live_cons a pool h0]
        exact hcons a (live pool)

/-- One call keeps the invariant. -/
theorem CacheInv.step {s : CacheState} (h : CacheInv s) {op : CacheOp}
    (hop : ∀ min : ℤ, op = .topup min → min ≤ KVM_ARCH_NR_OBJS_PER_MEMORY_CACHE) :
    CacheInv (cacheStep s op) := by
  cases op with
  | topup min =>
    have hmin : min.toNat ≤ KVM_ARCH_NR_OBJS_PER_MEMORY_CACHE := Int.toNat_le.mpr (hop min rfl)
    refine ⟨(kvm_mmu_topup_memory_cache_ok h.ok hmin s.pool).1, ?_⟩
    have hmoved := (topup_memory_cache_spec s.mc KVM_ARCH_NR_OBJS_PER_MEMORY_CACHE min.toNat s.pool).1
    exact nodup_of_subperm ((List.Subperm.refl (live s.handed)).append hmoved) h.distinct
  | alloc =>
    refine ⟨?_, nodup_of_subperm (kvm_mmu_memory_cache_alloc_moves s.mc s.pool s.handed) h.distinct⟩
    unfold cacheStep kvm_mmu_memory_cache_alloc
    rcases hobjs : s.mc.objects with _ | _ | ⟨obj, objs⟩
    · exact h.ok
    · exact h.ok
    · have hok := h.ok
      have hbound := hok.bound
      have hnonnull := hok.nonnull
      rw [KvmMmuMemoryCache.nobjs, hobjs, Option.getD_some, List.length_cons] at hbound
      rw [hobjs, Option.getD_some, List.mem_cons, not_or] at hnonnull
      refine ⟨fun _ => hok.capacity (by rw [hobjs]; rfl), ?_, hnonnull.2⟩
      dsimp only [KvmMmuMemoryCache.nobjs, Option.getD_some]
      omega

/-- **Every run** of top-ups for at most 40 objects and allocations keeps the invariant. -/
theorem cacheRun_inv {pool : List ℕ} (hpool : (live pool).Nodup) {ops : List CacheOp}
    (hops : ∀ min : ℤ, .topup min ∈ ops → min ≤ KVM_ARCH_NR_OBJS_PER_MEMORY_CACHE) :
    CacheInv (cacheRun pool ops) := by
  have hrun : ∀ (ops : List CacheOp) (s : CacheState), CacheInv s →
      (∀ min : ℤ, .topup min ∈ ops → min ≤ KVM_ARCH_NR_OBJS_PER_MEMORY_CACHE) →
      CacheInv (ops.foldl cacheStep s) := by
    intro ops
    induction ops with
    | nil =>
      intro s hs _
      exact hs
    | cons op ops ih =>
      intro s hs hops
      apply ih
      · exact hs.step fun min hop => hops min (hop ▸ List.mem_cons_self)
      · exact fun min hmin => hops min (List.mem_cons_of_mem op hmin)
  exact hrun ops _ ⟨zeroCache_ok, hpool⟩ hops

/-- What holds after every run: the cache is within its capacity, its objects are memory and different,
no object was handed out twice or is in the cache still, and the next top-up tells the truth. -/
structure CacheRight (s : CacheState) : Prop where
  bound : s.mc.nobjs ≤ s.mc.capacity
  nonnull : 0 ∉ s.mc.objects.getD []
  distinct : (s.mc.objects.getD []).Nodup
  once : (live s.handed).Nodup
  gone : ∀ obj ∈ live s.handed, obj ∉ s.mc.objects.getD []
  topup : ∀ min : ℤ, min ≤ KVM_ARCH_NR_OBJS_PER_MEMORY_CACHE →
    ((kvm_mmu_topup_memory_cache s.mc min.toNat s.pool).1 = STATUS_SUCCESS ↔
      min ≤ (kvm_mmu_topup_memory_cache s.mc min.toNat s.pool).2.1.nobjs)

theorem CacheInv.right {s : CacheState} (h : CacheInv s) : CacheRight s := by
  obtain ⟨honce, hrest, hapart⟩ := List.nodup_append.mp h.distinct
  obtain ⟨hdistinct, -, -⟩ := List.nodup_append.mp hrest
  refine ⟨h.ok.bound, h.ok.nonnull, hdistinct, honce, ?_, ?_⟩
  · intro obj hobj hmem
    exact hapart obj hobj obj (List.mem_append_left _ hmem) rfl
  · intro min hmin
    rw [(kvm_mmu_topup_memory_cache_ok h.ok (Int.toNat_le.mpr hmin) s.pool).2]
    exact Int.toNat_le

end Svmx.Tdp
