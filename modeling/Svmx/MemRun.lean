/-
Whole runs of `__kvm_set_memory_region`: each call that creates a slot, changes the flags of one,
or is rejected keeps the invariant `Consistent`, and by induction so does every run of such calls.
A DELETE or MOVE that goes through does not, and the last section runs one.
-/
import Svmx.MemRegion

set_option autoImplicit false

namespace Svmx.MemSlot

open ColorTree RbTree Hlist NtStatus KvmMrChange

/-! ## The invariant after an insertion or an exchange -/

/-- A list that has a slot `new` beside the slots of other ids shows the regions with that of `new` put
in their place. -/
theorem ShowRegions.update {slot slot' : Ptr → Option KvmMemorySlot} {l l' : List Ptr}
    {R : ℕ → Option Region} {new : Ptr} (h : ShowRegions slot l R) (hnew : new ∈ l')
    (hother : ∀ p ∈ l', p = new ∨ p ∈ l ∧ slotAt slot' p = slotAt slot p ∧
      (slotAt slot p).id ≠ (slotAt slot' new).id)
    (hkept : ∀ p ∈ l, (slotAt slot p).id ≠ (slotAt slot' new).id →
      p ∈ l' ∧ slotAt slot' p = slotAt slot p) :
    ShowRegions slot' l'
      (Function.update R (slotAt slot' new).id (some (slotAt slot' new).region)) := by
  intro id reg
  by_cases hidn : id = (slotAt slot' new).id
  · rw [hidn, Function.update_self, Option.some.injEq]
    constructor
    · rintro rfl
      exact ⟨new, hnew, rfl, rfl⟩
    · rintro ⟨p, hp, hid, hreg⟩
      rcases hother p hp with rfl | ⟨-, hsame, hne⟩
      · exact hreg
      · exact absurd (hsame ▸ hid) hne
  · rw [Function.update_of_ne hidn, h id reg]
    constructor
    · rintro ⟨p, hp, rfl, hreg⟩
      obtain ⟨hin, hsame⟩ := hkept p hp hidn
      exact ⟨p, hin, by rw [hsame], by rw [hsame, hreg]⟩
    · rintro ⟨p, hp, hid, hreg⟩
      rcases hother p hp with rfl | ⟨hin, hsame, -⟩
      · exact absurd hid.symm hidn
      · rw [hsame] at hid hreg
        exact ⟨p, hin, hid, hreg⟩

/-- No two slots share a bitmap, if `new` shares none with the others. -/
theorem bitmaps_apart {slot slot' : Ptr → Option KvmMemorySlot} {l l' : List Ptr} (new : Ptr)
    (hown : ∀ p ∈ l, ∀ q ∈ l, (slotAt slot p).dirty_bitmap ≠ 0 →
      (slotAt slot p).dirty_bitmap = (slotAt slot q).dirty_bitmap → p = q)
    (hother : ∀ p ∈ l', p = new ∨ p ∈ l ∧ slotAt slot' p = slotAt slot p ∧
      ((slotAt slot' new).dirty_bitmap ≠ 0 →
        (slotAt slot' new).dirty_bitmap ≠ (slotAt slot p).dirty_bitmap)) :
    ∀ p ∈ l', ∀ q ∈ l', (slotAt slot' p).dirty_bitmap ≠ 0 →
      (slotAt slot' p).dirty_bitmap = (slotAt slot' q).dirty_bitmap → p = q := by
  intro p hp q hq hne heq
  rcases hother p hp with hpn | ⟨hpl, hpsame, hpnew⟩
  · rcases hother q hq with hqn | ⟨-, hqsame, hqnew⟩
    · rw [hpn, hqn]
    · rw [hpn] at hne heq
      rw [hqsame] at heq
      exact absurd heq (hqnew hne)
  · rcases hother q hq with hqn | ⟨hql, hqsame, -⟩
    · rw [hqn] at heq
      rw [heq] at hne
      rw [hpsame] at heq
      exact absurd heq.symm (hpnew hne)
    · rw [hpsame] at hne heq
      rw [hqsame] at heq
      exact hown p hpl q hql hne heq

/-- Adding a slot to both sets keeps the invariant if the slot meets no other one, in its range, its
id and its bitmap. -/
theorem Consistent.insert {k k' : Kvm} {l : List Ptr} {R : ℕ → Option Region} {new : Ptr}
    (h : Consistent k l R) (hslot : k'.slot = k.slot) (hpool : k'.pool = k.pool)
    (hsets : ∀ idx, SetHolds k.slot (k'.memslots idx) (insertSlot k.slot new l))
    (hnr : k'.nr_memslot_pages = k.nr_memslot_pages + (slotAt k.slot new).npages)
    (hlt : k'.nr_memslot_pages < 2 ^ 64) (hsome : (k.slot new).isSome)
    (hpos : 0 < (slotAt k.slot new).npages) (hwrap : slotEnd k.slot new < 2 ^ 64)
    (hfree : ∀ q ∈ l, slotEnd k.slot q ≤ (slotAt k.slot new).base_gfn
      ∨ slotEnd k.slot new ≤ (slotAt k.slot q).base_gfn)
    (hbase : ∀ q ∈ l, (slotAt k.slot q).base_gfn ≠ (slotAt k.slot new).base_gfn)
    (hid : ∀ q ∈ l, (slotAt k.slot q).id ≠ (slotAt k.slot new).id)
    (hidlt : (slotAt k.slot new).id < KVM_MEM_SLOTS_NUM) (has : (slotAt k.slot new).as_id = 0)
    (hlive : (slotAt k.slot new).dirty_bitmap ≠ 0 →
      (k.pool (slotAt k.slot new).dirty_bitmap).isSome)
    (hown : ∀ q ∈ l, (slotAt k.slot new).dirty_bitmap ≠ 0 →
      (slotAt k.slot new).dirty_bitmap ≠ (slotAt k.slot q).dirty_bitmap) :
    Consistent k' (insertSlot k.slot new l)
      (Function.update R (slotAt k.slot new).id (some (slotAt k.slot new).region)) := by
  have hsorted := (h.holds false).sorted
  have hperm := insertSlot_perm hsorted hbase
  have hmem : ∀ q, q ∈ insertSlot k.slot new l ↔ q = new ∨ q ∈ l := fun q => mem_insertSlot hbase
  refine ⟨?_, ?_, ?_, ?_, ?_, ?_, hlt, ?_, ?_, ?_⟩
  · rw [hslot]
    exact hsets
  · rw [hslot]
    exact h.disjoint.insert hsorted hsome hpos hwrap hfree
  · rw [hslot]
    refine (hperm.pairwise_iff fun hab => hab.symm).2 (List.pairwise_cons.2 ⟨?_, h.ids⟩)
    intro q hq
    exact (hid q hq).symm
  · rw [hslot]
    intro p hp
    rcases (hmem p).1 hp with rfl | hp
    · exact hidlt
    · exact h.idLt p hp
  · rw [hslot]
    intro p hp
    rcases (hmem p).1 hp with rfl | hp
    · exact has
    · exact h.asId p hp
  · rw [hnr, h.pages, hslot, (hperm.map _).sum_nat, List.map_cons, List.sum_cons, Nat.add_comm]
  · rw [hslot, hpool]
    intro p hp
    rcases (hmem p).1 hp with rfl | hp
    · exact hlive
    · exact h.bitmapLive p hp
  · rw [hslot]
    refine bitmaps_apart new h.bitmapOwn fun p hp => ?_
    exact ((hmem p).1 hp).imp_right fun hp => ⟨hp, rfl, hown p hp⟩
  · rw [hslot]
    refine h.regions.update ((hmem new).2 (.inl rfl)) (fun p hp => ?_)
      fun p hp _ => ⟨(hmem p).2 (.inr hp), rfl⟩
    exact ((hmem p).1 hp).imp_right fun hp => ⟨hp, rfl, hid p hp⟩

/-- Exchanging a slot of both sets for one with the same place, size and id keeps the invariant, if
no other slot loses its bitmap by it. -/
theorem Consistent.exchange {k k' : Kvm} {l : List Ptr} {R : ℕ → Option Region} {old new : Ptr}
    (h : Consistent k l R) (hold : old ∈ l) (hnew : new ∉ l)
    (hslot : ∀ p, p ≠ old → k'.slot p = k.slot p)
    (hsets : ∀ idx, SetHolds k'.slot (k'.memslots idx) (replaceSlot old new l))
    (hnr : k'.nr_memslot_pages = k.nr_memslot_pages) (hsome : (k.slot new).isSome)
    (hbase : (slotAt k.slot old).base_gfn = (slotAt k.slot new).base_gfn)
    (hnp : (slotAt k.slot old).npages = (slotAt k.slot new).npages)
    (hid : (slotAt k.slot old).id = (slotAt k.slot new).id)
    (has : (slotAt k.slot new).as_id = 0)
    (hlive : ∀ p ∈ l, p ≠ old → (slotAt k.slot p).dirty_bitmap ≠ 0 →
      (k'.pool (slotAt k.slot p).dirty_bitmap).isSome)
    (hliven : (slotAt k.slot new).dirty_bitmap ≠ 0 →
      (k'.pool (slotAt k.slot new).dirty_bitmap).isSome)
    (hown : ∀ q ∈ l, q ≠ old → (slotAt k.slot new).dirty_bitmap ≠ 0 →
      (slotAt k.slot new).dirty_bitmap ≠ (slotAt k.slot q).dirty_bitmap) :
    Consistent k' (replaceSlot old new l)
      (Function.update R (slotAt k.slot new).id (some (slotAt k.slot new).region)) := by
  have hne : new ≠ old := fun e => hnew (e ▸ hold)
  have hat : ∀ p, p ≠ old → slotAt k'.slot p = slotAt k.slot p := fun p hp => by
    rw [slotAt, slotAt, hslot p hp]
  -- the fields that `new` shares with `old`, at every place of the list
  have hf : ∀ p, (slotAt k'.slot (if p = old then new else p)).base_gfn
        = (slotAt k.slot p).base_gfn
      ∧ (slotAt k'.slot (if p = old then new else p)).npages = (slotAt k.slot p).npages
      ∧ (slotAt k'.slot (if p = old then new else p)).id = (slotAt k.slot p).id := by
    intro p
    by_cases hp : p = old
    · rw [if_pos hp, hat new hne, hp, hbase, hnp, hid]
      exact ⟨rfl, rfl, rfl⟩
    · rw [if_neg hp, hat p hp]
      exact ⟨rfl, rfl, rfl⟩
  have hend : ∀ p, slotEnd k'.slot (if p = old then new else p) = slotEnd k.slot p := fun p => by
    rw [slotEnd, slotEnd, (hf p).1, (hf p).2.1]
  have hmem : ∀ p, p ∈ replaceSlot old new l ↔ p = new ∨ (p ∈ l ∧ p ≠ old) :=
    fun p => mem_replaceSlot hold
  refine ⟨hsets, ⟨(hsets false).slots, ?_, ?_, ?_⟩, ?_, ?_, ?_, ?_, ?_, ?_, ?_, ?_⟩
  · intro p hp
    obtain ⟨q, hq, rfl⟩ := List.mem_map.1 hp
    rw [(hf q).2.1]
    exact h.disjoint.pos q hq
  · intro p hp
    obtain ⟨q, hq, rfl⟩ := List.mem_map.1 hp
    rw [hend q]
    exact h.disjoint.nowrap q hq
  · rw [replaceSlot, List.pairwise_map]
    refine h.disjoint.disjoint.imp ?_
    intro p q hpq
    rw [hend p, (hf q).1]
    exact hpq
  · rw [replaceSlot, List.pairwise_map]
    refine h.ids.imp ?_
    intro p q hpq
    rw [(hf p).2.2, (hf q).2.2]
    exact hpq
  · intro p hp
    obtain ⟨q, hq, rfl⟩ := List.mem_map.1 hp
    rw [(hf q).2.2]
    exact h.idLt q hq
  · intro p hp
    rcases (hmem p).1 hp with rfl | ⟨hp, hpo⟩
    · rw [hat p hne, has]
    · rw [hat p hpo]
      exact h.asId p hp
  · rw [hnr, h.pages, replaceSlot, List.map_map]
    refine congrArg List.sum (List.map_congr_left fun p _ => ?_)
    exact (hf p).2.1.symm
  · rw [hnr]
    exact h.pagesLt
  · intro p hp
    rcases (hmem p).1 hp with rfl | ⟨hp, hpo⟩
    · rw [hat p hne]
      exact hliven
    · rw [hat p hpo]
      exact hlive p hp hpo
  · refine bitmaps_apart new h.bitmapOwn fun p hp => ?_
    rcases (hmem p).1 hp with rfl | ⟨hp, hpo⟩
    · exact Or.inl rfl
    · refine Or.inr ⟨hp, hat p hpo, ?_⟩
      rw [hat new hne]
      exact hown p hp hpo
  · -- ids are distinct, so `old` was the only slot of its id
    have huniq : ∀ p ∈ l, (slotAt k.slot p).id = (slotAt k.slot new).id → p = old := by
      intro p hp hpid
      have hnd : (l.map (fun p => (slotAt k.slot p).id)).Nodup := by
        rw [List.Nodup, List.pairwise_map]
        exact h.ids
      exact List.inj_on_of_nodup_map hnd hp hold (hpid.trans hid.symm)
    rw [← hat new hne]
    refine h.regions.update ((hmem new).2 (.inl rfl)) (fun p hp => ?_) fun p hp hpid => ?_
    · rcases (hmem p).1 hp with rfl | ⟨hp, hpo⟩
      · exact Or.inl rfl
      · refine Or.inr ⟨hp, hat p hpo, fun hpid => ?_⟩
        rw [hat new hne] at hpid
        exact hpo (huniq p hp hpid)
    · have hpo : p ≠ old := by
        rintro rfl
        rw [hat new hne] at hpid
        exact hpid hid
      exact ⟨(hmem p).2 (.inr ⟨hp, hpo⟩), hat p hpo⟩

/-! ## One call -/

/-- A call returned and the invariant holds, with the regions of a successful request applied. -/
def Returned (R : ℕ → Option Region) (mem : KvmUserspaceMemoryRegion)
    (res : Option (NtStatus × Kvm)) : Prop :=
  ∃ r kvm' l', res = some (r, kvm')
    ∧ Consistent kvm' l' (if r = STATUS_SUCCESS then applyRegion R mem else R)

section call

variable {host : Host} {ans : PoolAnswers} {kvm k : Kvm} {l : List Ptr} {R : ℕ → Option Region}
  {mem : KvmUserspaceMemoryRegion} {fuel : ℕ} {change : KvmMrChange} {old : Ptr}

/-- Releasing a lock that is held. -/
theorem unlockArch_spec (h : Consistent k l R) (hlock : k.slots_arch_lock ≠ 0) :
    ∃ k', k.unlockArch = some k' ∧ Consistent k' l R ∧ k'.slot = k.slot :=
  ⟨_, if_neg hlock, h.lock _, rfl⟩

/-- `kvm_set_memslot` for a change that needs no `invalid_slot`. -/
theorem kvm_set_memslot_eq {new : Ptr} (hc : invalidates change = false) :
    kvm_set_memslot fuel host ans k old new change
      = (kvm_prepare_memory_region host ans k.lockArch old new change).bind (fun rk =>
          if rk.1 ≠ STATUS_SUCCESS then rk.2.unlockArch.bind (fun k => some (rk.1, k))
          else (kvm_install_memslot fuel rk.2 old new ans.invalid_slot change).bind (fun k =>
            (kvm_commit_memory_region ans k old new change).bind (fun k =>
              some (STATUS_SUCCESS, k)))) := by
  simp only [kvm_set_memslot, kvm_alloc_invalid_slot, kvm_set_memslot_failed,
    kvm_free_invalid_slot, hc, Bool.false_eq_true, if_false, Option.bind_eq_bind,
    Option.bind_some, ne_eq, not_true_eq_false]
  rfl

/-- The fields of the new slot once the preparation is done. -/
theorem prepared_new_fields {new : Ptr} {k' : Kvm} {n m : KvmMemorySlot} (hp : Prepared new k k')
    (hn : k.slot new = some n) (hm : k'.slot new = some m) :
    m.base_gfn = n.base_gfn ∧ m.npages = n.npages ∧ m.flags = n.flags ∧ m.id = n.id
      ∧ m.as_id = n.as_id := by
  have h := hp.new
  rw [hn, hm] at h
  simpa [KvmMemorySlot.noArch] using h

/-- The state between the preparation of the new slot and its installation: the sets are as they
were at the start of the call, and the new slot `m` has the fields of the request. -/
structure NewPrepared (kvm : Kvm) (ans : PoolAnswers) (mem : KvmUserspaceMemoryRegion)
    (l : List Ptr) (R : ℕ → Option Region) (k : Kvm) (m : KvmMemorySlot) : Prop where
  cons : Consistent k l R
  fresh : FreshSlot k l ans.new
  lock : k.slots_arch_lock ≠ 0
  at_new : k.slot ans.new = some m
  region : m.region = mem.region
  id : m.id = mem.id
  as_id : m.as_id = mem.as_id
  same : ∀ p ∈ l, (k.slot p).map (·.noArch) = (kvm.slot p).map (·.noArch)
  pages : k.nr_memslot_pages = kvm.nr_memslot_pages
  pool : ∀ b, (kvm.pool b).isSome → (k.pool b).isSome

/-- `ob` is the bitmap of `old`, and NULL if there is no `old`. -/
theorem old_bitmap_eq {ob : Ptr} (h : Consistent kvm l R) (hob : old_dirty_bitmap kvm old = some ob)
    (holdmem : old = 0 ∨ old ∈ l) :
    (old ∈ l → (slotAt kvm.slot old).dirty_bitmap = ob) ∧ (old ∉ l → ob = 0) := by
  rw [old_dirty_bitmap] at hob
  constructor
  · intro hold
    rw [if_pos ((h.holds false).nodePtr old hold).1, slot_eq_slotAt (h.disjoint.slots old hold),
      Option.map_some, Option.some.injEq] at hob
    exact hob
  · intro hold
    rw [if_neg (not_not.mpr (holdmem.resolve_right hold)), Option.some.injEq] at hob
    exact hob.symm

/-- The preparation of a new slot for CREATE or FLAGS_ONLY: the fields `dirty_bitmap` of `old` is
`ob`, NULL if there is no `old`. -/
theorem prepare_new_spec (host : Host) {ob : Ptr} (h : Consistent kvm l R) (hf : ans.Fresh kvm)
    (hnew : ans.new ≠ 0) (hchange : invalidates change = false)
    (hob : old_dirty_bitmap kvm old = some ob) (holdmem : old = 0 ∨ old ∈ l)
    (hflags : change = KVM_MR_FLAGS_ONLY → old ≠ 0)
    (hk : kvm_init_new_slot (kvm.allocSlot ans.new ans.new_raw) ans.new mem = some k) :
    (∃ r k1 m, kvm_prepare_memory_region host ans k.lockArch old ans.new change = some (r, k1)
        ∧ NewPrepared kvm ans mem l R k1 m
        ∧ (r = STATUS_SUCCESS → BitmapFrom ans ob m.dirty_bitmap
          ∧ (m.dirty_bitmap ≠ 0 → (k1.pool m.dirty_bitmap).isSome)
          ∧ (m.dirty_bitmap = 0 ↔ mem.flags &&& KVM_MEM_LOG_DIRTY_PAGES = 0)))
      ∨ (kvm_prepare_memory_region host ans k.lockArch old ans.new change = none
        ∧ ¬ ans.metadataOk host) := by
  obtain ⟨k', ek, hkc, hfresh, hkslot, hkpool, hkpages, -⟩ := alloc_new_spec mem h hf hnew
  obtain rfl : k = k' := Option.some.inj (hk.symm.trans ek)
  have hkn : k.slot ans.new = some (newFields ans.new_raw mem) := by
    rw [hkslot, Function.update_self]
  have hold : old ≠ ans.new := by
    rcases holdmem with rfl | hm
    · exact Ne.symm hnew
    · exact fun e => hfresh.notMem (e ▸ hm)
  have hob' : old_dirty_bitmap k.lockArch old = some ob := by
    rw [old_dirty_bitmap_update (show k.lockArch.slot = _ from hkslot) hold, hob]
  obtain ⟨hbitmap, hnone⟩ := old_bitmap_eq h hob holdmem
  have hlive : ob ≠ 0 → (k.lockArch.pool ob).isSome := by
    intro h0
    have hm : old ∈ l := by
      by_contra hno
      exact h0 (hnone hno)
    show (k.pool ob).isSome
    rw [← hbitmap hm] at h0 ⊢
    rw [hkpool]
    exact h.bitmapLive old hm h0
  have hdel : change ≠ KVM_MR_DELETE := by
    rintro rfl
    cases hchange
  have hprep : PrepareOutcome host ans k.lockArch ans.new ob (newFields ans.new_raw mem) change
        (kvm_prepare_memory_region host ans k.lockArch old ans.new change)
      ∨ (kvm_prepare_memory_region host ans k.lockArch old ans.new change = none
        ∧ ¬ ans.metadataOk host) :=
    kvm_prepare_memory_region_spec hdel hkn hob' hlive hnew hold hflags
      (fun h => by rw [← hf.bitmap h, ← hkpool]; rfl)
  rcases hprep with ⟨r, k1, m, e1, hp1, hm1, hok⟩ | hbad
  swap
  · -- the metadata could not be allocated
    exact .inr hbad
  left
  have hfl : FreshSlot k.lockArch l ans.new :=
    ⟨hfresh.notMem, hfresh.ptr, hfresh.slot, hfresh.rb, hfresh.hl⟩
  obtain ⟨hmb, hmn, hmf, hmi, hma⟩ := prepared_new_fields hp1 hkn hm1
  refine ⟨r, k1, m, e1, ⟨(hkc.lock _).prepared hfresh.notMem hp1, hfl.prepared hp1, ?_, hm1, ?_,
    hmi, hma, ?_, hp1.pages.trans hkpages, ?_⟩, fun hr => ⟨(hok hr).1, (hok hr).2.1, (hok hr).2.2.1⟩⟩
  · rw [hp1.lock]
    exact Nat.succ_ne_zero _
  · rw [KvmMemorySlot.region, KvmUserspaceMemoryRegion.region, hmb, hmn, hmf]
    rfl
  · intro p hp
    have hne : p ≠ ans.new := fun e => hfresh.notMem (e ▸ hp)
    rw [hp1.other p hne, show k.lockArch.slot p = k.slot p from rfl, hkslot,
      Function.update_of_ne hne]
  · intro b hb
    exact hp1.pool b (by rw [← hkpool] at hb; exact hb)

theorem arch_commit_same (ans : PoolAnswers) (k : Kvm) (change : KvmMrChange) :
    (kvm_arch_commit_mmu_pages ans k change).slot = k.slot
      ∧ (kvm_arch_commit_mmu_pages ans k change).pool = k.pool
      ∧ (kvm_arch_commit_mmu_pages ans k change).memslots = k.memslots
      ∧ (kvm_arch_commit_mmu_pages ans k change).nr_memslot_pages = k.nr_memslot_pages := by
  rw [kvm_arch_commit_mmu_pages]
  split
  · rw [kvm_mmu_change_mmu_pages]
    split <;> exact ⟨rfl, rfl, rfl, rfl⟩
  · exact ⟨rfl, rfl, rfl, rfl⟩

/-- Committing a new slot adds its pages. -/
theorem commit_create_spec (ans : PoolAnswers) (old : Ptr) {new : Ptr} {m : KvmMemorySlot}
    (hm : k.slot new = some m) :
    ∃ k', kvm_commit_memory_region ans k old new KVM_MR_CREATE = some k'
      ∧ k'.slot = k.slot ∧ k'.pool = k.pool ∧ k'.memslots = k.memslots
      ∧ k'.nr_memslot_pages = (k.nr_memslot_pages + m.npages) % 2 ^ 64 := by
  let k1 : Kvm := { k with nr_memslot_pages := (k.nr_memslot_pages + m.npages) % 2 ^ 64 }
  obtain ⟨h1, h2, h3, h4⟩ := arch_commit_same ans k1 KVM_MR_CREATE
  refine ⟨kvm_arch_commit_mmu_pages ans k1 KVM_MR_CREATE, ?_, h1, h2, h3, h4⟩
  simp only [kvm_commit_memory_region, kvm_commit_nr_pages, hm, Option.bind_eq_bind,
    Option.bind_some]
  rfl

/-- Installing and committing a created slot. -/
theorem install_create_spec {m : KvmMemorySlot} (h : Consistent kvm l R) (hf : ans.Fresh kvm)
    (hfuel : l.length < fuel) (hv : VerdictOk kvm l mem (.change KVM_MR_CREATE 0))
    (hn : NewPrepared kvm ans mem l R k m) (hfrom : BitmapFrom ans 0 m.dirty_bitmap)
    (hlive : m.dirty_bitmap ≠ 0 → (k.pool m.dirty_bitmap).isSome) :
    ∃ k1 k2, kvm_create_memslot fuel k ans.new = some k1
      ∧ kvm_commit_memory_region ans k1 0 ans.new KVM_MR_CREATE = some k2
      ∧ Consistent k2 (insertSlot k.slot ans.new l) (applyRegion R mem)
      ∧ (∀ q, q ∈ insertSlot k.slot ans.new l ↔ q = ans.new ∨ q ∈ l)
      ∧ k2.slot = k.slot ∧ k2.pool = k.pool := by
  obtain ⟨-, hsz, hacc, hpos, hid, hfree, hnr⟩ := hv
  obtain ⟨has, hidlt, hwrap, -, -⟩ := KvmUserspaceMemoryRegion.accepted_bounds hacc
  have hat : slotAt k.slot ans.new = m := slotAt_of_some hn.at_new
  have hreg := hn.region
  simp only [KvmMemorySlot.region, KvmUserspaceMemoryRegion.region, Region.mk.injEq] at hreg
  obtain ⟨hmb, hmn, -⟩ := hreg
  -- the slots of the sets are those of the state before the call
  have hold := fun p hp => noArch_fields (slotAt_noArch (hn.same p hp))
  have hoend : ∀ q ∈ l, slotEnd k.slot q = slotEnd kvm.slot q := fun q hq => by
    rw [slotEnd, slotEnd, (hold q hq).1, (hold q hq).2.1]
  have hend : slotEnd k.slot ans.new = mem.base_gfn + mem.npages := by
    rw [slotEnd, hat, hmb, hmn]
  have hbase : ∀ q ∈ l, (slotAt k.slot q).base_gfn ≠ (slotAt k.slot ans.new).base_gfn := by
    intro q hq he
    rw [hat, (hold q hq).1, hmb] at he
    have h1 := h.disjoint.pos q hq
    have h2 : slotEnd kvm.slot q = (slotAt kvm.slot q).base_gfn + (slotAt kvm.slot q).npages := rfl
    rcases hfree q hq with hq' | hq' <;> omega
  obtain ⟨k1, e1, hsets1, hslot1, hpool1, hpages1⟩ := kvm_create_memslot_spec hn.cons.holds hn.fresh
    (by rw [hat, hn.as_id]; exact has) hbase hn.lock hfuel
  obtain ⟨k2, e2, hslot2, hpool2, hmem2, hnr2⟩ :=
    commit_create_spec ans 0 (show k1.slot ans.new = some m by rw [hslot1, hn.at_new])
  have hnr' : k2.nr_memslot_pages = k.nr_memslot_pages + (slotAt k.slot ans.new).npages := by
    rw [hnr2, hpages1, hat, hn.pages, hmn, Nat.mod_eq_of_lt hnr]
  refine ⟨k1, k2, e1, e2, ?_, fun q => mem_insertSlot hbase, hslot2.trans hslot1,
    hpool2.trans hpool1⟩
  have hcons := hn.cons.insert (hslot2.trans hslot1) (hpool2.trans hpool1)
    (by rw [hmem2]; exact hsets1) hnr' (by rw [hnr', hat, hn.pages, hmn]; exact hnr) hn.fresh.slot
    (by rw [hat, hmn]; exact hpos) (by rw [hend]; exact hwrap)
    (fun q hq => by rw [hend, hat, hmb, hoend q hq, (hold q hq).1]; exact hfree q hq) hbase
    (fun q hq => by rw [hat, hn.id, (hold q hq).2.2.2.2.1]; exact hid q hq)
    (by rw [hat, hn.id]; exact hidlt) (by rw [hat, hn.as_id]; exact has)
    (by rw [hat]; exact hlive) (fun q hq hb he => by
      -- a new bitmap is a block that was free, those of the other slots were live
      rw [hat] at hb he
      rw [(hold q hq).2.2.1] at he
      rcases hfrom with h0 | ⟨-, h0⟩ | ⟨h1, -, -⟩
      · exact hb h0
      · exact h0 rfl
      · have hlv := h.bitmapLive q hq (by rw [← he]; exact hb)
        rw [← he, h1, hf.bitmap (by rw [← h1]; exact hb)] at hlv
        cases hlv)
  rw [hat, hn.id, hn.region] at hcons
  rw [applyRegion, if_neg hsz]
  exact hcons

/-- The course of CREATE and FLAGS_ONLY. Unless there is no memory for the new slot, it is set up and
prepared; if that fails the call returns with the sets as they were, and if it succeeds the slot is
installed and committed. -/
theorem apply_new_cases {ob : Ptr} (h : Consistent kvm l R) (hf : ans.Fresh kvm)
    (hchange : invalidates change = false) (hdel : change ≠ KVM_MR_DELETE)
    (hob : old_dirty_bitmap kvm old = some ob) (holdmem : old = 0 ∨ old ∈ l)
    (hflags : change = KVM_MR_FLAGS_ONLY → old ≠ 0) :
    (kvm_apply_change fuel host ans kvm mem change old = some (STATUS_NO_MEMORY, kvm))
      ∨ (kvm_apply_change fuel host ans kvm mem change old = none ∧ ¬ ans.metadataOk host)
      ∨ ∃ k r k1 m, kvm_init_new_slot (kvm.allocSlot ans.new ans.new_raw) ans.new mem = some k
        ∧ kvm_prepare_memory_region host ans k.lockArch old ans.new change = some (r, k1)
        ∧ NewPrepared kvm ans mem l R k1 m
        ∧ (r ≠ STATUS_SUCCESS → ∃ k', Consistent k' l R
          ∧ kvm_apply_change fuel host ans kvm mem change old = some (r, k'))
        ∧ (r = STATUS_SUCCESS → BitmapFrom ans ob m.dirty_bitmap
          ∧ (m.dirty_bitmap ≠ 0 → (k1.pool m.dirty_bitmap).isSome)
          ∧ (m.dirty_bitmap = 0 ↔ mem.flags &&& KVM_MEM_LOG_DIRTY_PAGES = 0)
          ∧ kvm_apply_change fuel host ans kvm mem change old
            = (kvm_install_memslot fuel k1 old ans.new ans.invalid_slot change).bind (fun k =>
              (kvm_commit_memory_region ans k old ans.new change).bind (fun k =>
                some (STATUS_SUCCESS, k)))) := by
  rw [kvm_apply_change, if_neg hdel]
  by_cases hnew : ans.new = 0
  · exact .inl (if_pos hnew)
  rw [if_neg hnew]
  obtain ⟨k, ek, -⟩ := alloc_new_spec mem h hf hnew
  simp only [ek, Option.bind_eq_bind, Option.bind_some]
  rw [kvm_set_memslot_eq hchange]
  have hprep := prepare_new_spec host h hf hnew hchange hob holdmem hflags ek
  rcases hprep with ⟨r, k1, m, e1, hn, hok⟩ | ⟨e1, hbad⟩
  swap
  · exact .inr (.inl ⟨by rw [e1]; rfl, hbad⟩)
  refine .inr (.inr ⟨k, r, k1, m, rfl, e1, hn, ?_, ?_⟩)
  · intro hr
    obtain ⟨k2, e2, hc2, hs2⟩ := unlockArch_spec hn.cons hn.lock
    obtain ⟨k3, e3, hc3, -⟩ :=
      free_slot_spec hc2 hn.fresh.notMem (by rw [hs2]; exact hn.fresh.slot)
    refine ⟨k3, hc3, ?_⟩
    simp only [e1, Option.bind_some, if_pos hr, e2, kvm_free_new_slot, e3, Option.pure_def]
  · intro hr
    obtain ⟨hfrom, hlive, hlog⟩ := hok hr
    refine ⟨hfrom, hlive, hlog, ?_⟩
    rw [e1, Option.bind_some, if_neg (not_not.2 hr)]
    simp only [Option.bind_assoc, Option.bind_some, kvm_free_new_slot, ne_eq, not_true_eq_false,
      if_false, Option.pure_def]

/-- The outcome of CREATE and FLAGS_ONLY, from what installing the new slot comes to. -/
theorem apply_new_spec {ob : Ptr} (h : Consistent kvm l R) (hf : ans.Fresh kvm)
    (hchange : invalidates change = false) (hdel : change ≠ KVM_MR_DELETE)
    (hob : old_dirty_bitmap kvm old = some ob) (holdmem : old = 0 ∨ old ∈ l)
    (hflags : change = KVM_MR_FLAGS_ONLY → old ≠ 0)
    (hinstall : ∀ k m, NewPrepared kvm ans mem l R k m → BitmapFrom ans ob m.dirty_bitmap →
      (m.dirty_bitmap ≠ 0 → (k.pool m.dirty_bitmap).isSome) →
      ∃ k1 k2 l', kvm_install_memslot fuel k old ans.new ans.invalid_slot change = some k1
        ∧ kvm_commit_memory_region ans k1 old ans.new change = some k2
        ∧ Consistent k2 l' (applyRegion R mem)) :
    Returned R mem (kvm_apply_change fuel host ans kvm mem change old)
      ∨ (kvm_apply_change fuel host ans kvm mem change old = none ∧ ¬ ans.metadataOk host) := by
  rcases apply_new_cases h hf hchange hdel hob holdmem hflags with
    e | hbad | ⟨k, r, k1, m, -, -, hn, hfail, hok⟩
  · exact .inl ⟨STATUS_NO_MEMORY, kvm, l, e, by simpa using h⟩
  · exact .inr hbad
  left
  by_cases hr : r = STATUS_SUCCESS
  · obtain ⟨hfrom, hlive, -, e⟩ := hok hr
    obtain ⟨k2, k3, l', e2, e3, hc3⟩ := hinstall k1 m hn hfrom hlive
    refine ⟨STATUS_SUCCESS, k3, l', ?_, by rw [if_pos rfl]; exact hc3⟩
    rw [e, e2, Option.bind_some, e3]
    rfl
  · obtain ⟨k', hc, e⟩ := hfail hr
    exact ⟨r, k', l, e, by rw [if_neg hr]; exact hc⟩

/-- **CREATE.** -/
theorem apply_create_spec (h : Consistent kvm l R) (hf : ans.Fresh kvm) (hfuel : l.length < fuel)
    (hv : VerdictOk kvm l mem (.change KVM_MR_CREATE old)) :
    Returned R mem (kvm_apply_change fuel host ans kvm mem KVM_MR_CREATE old)
      ∨ (kvm_apply_change fuel host ans kvm mem KVM_MR_CREATE old = none
        ∧ ¬ ans.metadataOk host) := by
  obtain rfl := hv.1
  apply apply_new_spec h hf rfl (by simp) rfl (.inl rfl) (by simp)
  intro k m hn hfrom hlive
  obtain ⟨k1, k2, e1, e2, hc, -⟩ := install_create_spec h hf hfuel hv hn hfrom hlive
  exact ⟨k1, k2, _, e1, e2, hc⟩

theorem freeSlot_eq {p : Ptr} {m : KvmMemorySlot} (h : k.slot p = some m) :
    k.freeSlot p = some { k with
      slot := Function.update k.slot p none
      memslots := k.setNodes p (fun _ => none) (fun _ => none) } := by
  simp only [Kvm.freeSlot, h, Option.bind_eq_bind, Option.bind_some]
  rfl

/-- Committing a change of flags frees `old`, and its bitmap if `new` has none. -/
theorem commit_flags_spec (ans : PoolAnswers) {new : Ptr} {o n : KvmMemorySlot}
    (ho : k.slot old = some o) (hn : k.slot new = some n)
    (hlive : o.dirty_bitmap ≠ 0 → (k.pool o.dirty_bitmap).isSome) :
    ∃ k', kvm_commit_memory_region ans k old new KVM_MR_FLAGS_ONLY = some k'
      ∧ k'.memslots = k.setNodes old (fun _ => none) (fun _ => none)
      ∧ (∀ p, p ≠ old → k'.slot p = k.slot p)
      ∧ k'.nr_memslot_pages = k.nr_memslot_pages
      ∧ k'.pool = if o.dirty_bitmap ≠ 0 ∧ n.dirty_bitmap = 0
          then Function.update k.pool o.dirty_bitmap none else k.pool := by
  have hcommit : kvm_commit_memory_region ans k old new KVM_MR_FLAGS_ONLY
      = (if o.dirty_bitmap ≠ 0 ∧ n.dirty_bitmap = 0 then kvm_destroy_dirty_bitmap k old
          else some k).bind (fun k => k.freeSlot old) := by
    have harch : kvm_arch_commit_memory_region ans k old KVM_MR_FLAGS_ONLY = some k := by
      rw [kvm_arch_commit_memory_region, if_neg (by simp), kvm_arch_commit_mmu_pages,
        if_neg (by simp)]
    simp only [kvm_commit_memory_region, kvm_commit_nr_pages, harch, kvm_commit_free_old,
      kvm_commit_dirty_bitmap, ho, hn, Option.bind_eq_bind, Option.bind_some]
    rfl
  rw [hcommit]
  by_cases hd : o.dirty_bitmap ≠ 0 ∧ n.dirty_bitmap = 0
  · rw [if_pos hd, kvm_destroy_dirty_bitmap_spec ho hd.1 (hlive hd.1), Option.bind_some,
      freeSlot_eq (Function.update_self ..)]
    refine ⟨_, rfl, rfl, ?_, rfl, (if_pos hd).symm⟩
    intro p hp
    simp [Function.update_of_ne hp]
  · rw [if_neg hd, Option.bind_some, freeSlot_eq ho]
    refine ⟨_, rfl, rfl, ?_, rfl, (if_neg hd).symm⟩
    intro p hp
    simp [Function.update_of_ne hp]

/-- Installing and committing a change of flags. -/
theorem install_flags_spec {m : KvmMemorySlot} (h : Consistent kvm l R) (hf : ans.Fresh kvm)
    (hv : VerdictOk kvm l mem (.change KVM_MR_FLAGS_ONLY old))
    (hn : NewPrepared kvm ans mem l R k m)
    (hfrom : BitmapFrom ans (slotAt kvm.slot old).dirty_bitmap m.dirty_bitmap)
    (hlive : m.dirty_bitmap ≠ 0 → (k.pool m.dirty_bitmap).isSome) :
    ∃ k1 k2, kvm_update_flags_memslot fuel k old ans.new = some k1
      ∧ kvm_commit_memory_region ans k1 old ans.new KVM_MR_FLAGS_ONLY = some k2
      ∧ Consistent k2 (replaceSlot old ans.new l) (applyRegion R mem)
      ∧ (∀ p, p ≠ old → k2.slot p = k.slot p)
      ∧ k2.pool = if (slotAt k.slot old).dirty_bitmap ≠ 0 ∧ m.dirty_bitmap = 0
          then Function.update k.pool (slotAt k.slot old).dirty_bitmap none else k.pool := by
  obtain ⟨hmem, hsz, hacc, hid, hnp, hbase⟩ := hv
  obtain ⟨has, -⟩ := KvmUserspaceMemoryRegion.accepted_bounds hacc
  have hat : slotAt k.slot ans.new = m := slotAt_of_some hn.at_new
  have hreg := hn.region
  simp only [KvmMemorySlot.region, KvmUserspaceMemoryRegion.region, Region.mk.injEq] at hreg
  obtain ⟨hmb, hmn, -⟩ := hreg
  have hold := fun p hp => noArch_fields (slotAt_noArch (hn.same p hp))
  have hne : ans.new ≠ old := fun e => hn.fresh.notMem (e ▸ hmem)
  have hbase' : (slotAt k.slot old).base_gfn = (slotAt k.slot ans.new).base_gfn := by
    rw [hat, hmb, (hold old hmem).1, hbase]
  obtain ⟨k1, e1, hsets1, hslot1, hpool1, hpages1⟩ := kvm_update_flags_memslot_spec hn.cons.holds
    hmem hn.fresh (hn.cons.asId old hmem) hbase' hn.lock
  have ho1 : k1.slot old = some (slotAt k.slot old) := by
    rw [hslot1, slot_eq_slotAt (hn.cons.disjoint.slots old hmem)]
  obtain ⟨k2, e2, hmem2, hslot2, hnr2, hpool2⟩ := commit_flags_spec ans ho1
    (show k1.slot ans.new = some m by rw [hslot1, hn.at_new])
    (fun hb => by rw [hpool1]; exact hn.cons.bitmapLive old hmem hb)
  have hslot2' : ∀ p, p ≠ old → k2.slot p = k.slot p := fun p hp => by rw [hslot2 p hp, hslot1]
  rw [hpool1] at hpool2
  refine ⟨k1, k2, e1, e2, ?_, hslot2', hpool2⟩
  -- the bitmap of `old` goes if `new` has none, and no other
  have hkept : ∀ b, (k.pool b).isSome →
      (b ≠ (slotAt k.slot old).dirty_bitmap ∨ m.dirty_bitmap ≠ 0) → (k2.pool b).isSome := by
    intro b hb hbo
    rw [hpool2]
    split
    · next hgone =>
      rw [Function.update_of_ne (hbo.resolve_right (not_not.2 hgone.2))]
      exact hb
    · exact hb
  -- the freed slot is in no set any more
  have hnot : ∀ p ∈ replaceSlot old ans.new l, p ≠ old := by
    intro p hp
    rcases (mem_replaceSlot hmem).1 hp with rfl | ⟨-, hpo⟩
    · exact hne
    · exact hpo
  have hsets2 : ∀ idx, SetHolds k2.slot (k2.memslots idx) (replaceSlot old ans.new l) := by
    intro idx
    have hat2 : ∀ p ∈ replaceSlot old ans.new l, slotAt k2.slot p = slotAt k.slot p := fun p hp => by
      rw [slotAt, slotAt, hslot2' p (hnot p hp)]
    refine (hsets1 idx).congr (by rw [hmem2]; rfl) ?_ (by rw [hmem2]; rfl) ?_ ?_ ?_ ?_
    · intro p hp
      simp [hmem2, Kvm.setNodes, Function.update_of_ne (hnot p hp)]
    · intro p hp
      simp [hmem2, Kvm.setNodes, Function.update_of_ne (hnot p hp)]
    · intro p hp
      rw [hslot2' p (hnot p hp)]
      exact (hsets1 idx).slots p hp
    · intro p hp
      rw [hat2 p hp]
    · intro p hp
      rw [hat2 p hp]
  have hob : (slotAt k.slot old).dirty_bitmap = (slotAt kvm.slot old).dirty_bitmap :=
    (hold old hmem).2.2.1
  have hcons := hn.cons.exchange hmem hn.fresh.notMem hslot2' hsets2 (hnr2.trans hpages1)
    hn.fresh.slot hbase' (by rw [hat, hmn, (hold old hmem).2.1, hnp])
    (by rw [hat, hn.id, (hold old hmem).2.2.2.2.1, hid]) (by rw [hat, hn.as_id]; exact has)
    (fun p hp hpo hb => by
      refine hkept _ (hn.cons.bitmapLive p hp hb) (.inl ?_)
      exact fun he => hpo (hn.cons.bitmapOwn p hp old hmem hb he))
    (fun hb => by
      rw [hat] at hb ⊢
      exact hkept _ (hlive hb) (.inr hb))
    (fun q hq hqo hb he => by
      rw [hat] at hb he
      rcases hfrom with h0 | ⟨h1, h0⟩ | ⟨h1, -, -⟩
      · exact hb h0
      · -- the bitmap of `old`, which no other slot has
        exact hqo (hn.cons.bitmapOwn q hq old hmem (by rw [← he]; exact hb)
          (by rw [← he, hob, h1]))
      · -- a new block, while the one of another slot was live
        rw [(hold q hq).2.2.1] at he
        have hlv := h.bitmapLive q hq (by rw [← he]; exact hb)
        rw [← he, h1, hf.bitmap (by rw [← h1]; exact hb)] at hlv
        cases hlv)
  rw [hat, hn.id, hn.region] at hcons
  rw [applyRegion, if_neg hsz]
  exact hcons

/-- **FLAGS_ONLY.** -/
theorem apply_flags_spec (h : Consistent kvm l R) (hf : ans.Fresh kvm)
    (hv : VerdictOk kvm l mem (.change KVM_MR_FLAGS_ONLY old)) :
    Returned R mem (kvm_apply_change fuel host ans kvm mem KVM_MR_FLAGS_ONLY old)
      ∨ (kvm_apply_change fuel host ans kvm mem KVM_MR_FLAGS_ONLY old = none
        ∧ ¬ ans.metadataOk host) := by
  have hmem : old ∈ l := hv.1
  have hold0 : old ≠ 0 := ((h.holds false).nodePtr old hmem).1
  have hob : old_dirty_bitmap kvm old = some (slotAt kvm.slot old).dirty_bitmap := by
    rw [old_dirty_bitmap, if_pos hold0, slot_eq_slotAt (h.disjoint.slots old hmem), Option.map_some]
  apply apply_new_spec h hf rfl (by simp) hob (.inr hmem) (fun _ => hold0)
  intro k m hn hfrom hlive
  obtain ⟨k1, k2, e1, e2, hc, -⟩ := install_flags_spec h hf hv hn hfrom hlive
  exact ⟨k1, k2, _, e1, e2, hc⟩

/-- `invalid_slot` and the write to `old->arch` leave the sets alone. -/
theorem alloc_invalid_spec (ans : PoolAnswers) (h : Consistent k l R) (hold : old ∈ l) (hinv : ans.invalid_slot ∉ l) :
    ∃ k', kvm_invalidate_memslot (k.allocSlot ans.invalid_slot ans.invalid_raw) old
        ans.invalid_slot = some k' ∧ Consistent k' l R ∧ k'.pool = k.pool
      ∧ ∀ q, q ≠ ans.invalid_slot → (k'.slot q).map (·.noArch) = (k.slot q).map (·.noArch) := by
  have hne : old ≠ ans.invalid_slot := fun e => hinv (e ▸ hold)
  have hc : Consistent (k.allocSlot ans.invalid_slot ans.invalid_raw) l R := by
    refine h.setNodes hinv rfl ?_ rfl rfl
    intro q hq
    simp [Kvm.allocSlot, Function.update_of_ne hq]
  have ho : (k.allocSlot ans.invalid_slot ans.invalid_raw).slot old
      = some (slotAt k.slot old) := by
    rw [Kvm.allocSlot]
    simp only [Function.update_of_ne hne]
    exact slot_eq_slotAt (h.disjoint.slots old hold)
  let k' := (k.allocSlot ans.invalid_slot ans.invalid_raw).setSlot old
    { slotAt k.slot old with arch := ans.invalid_raw.slot.arch }
  have hk' : kvm_invalidate_memslot (k.allocSlot ans.invalid_slot ans.invalid_raw) old
      ans.invalid_slot = some k' := by
    rw [kvm_invalidate_memslot, show (k.allocSlot ans.invalid_slot ans.invalid_raw).slot
      ans.invalid_slot = some ans.invalid_raw.slot from Function.update_self ..]
    simp only [Option.bind_eq_bind, Option.bind_some, Kvm.setArch, ho]
    rfl
  have hslot : ∀ q, (k'.slot q).map (·.noArch)
      = ((k.allocSlot ans.invalid_slot ans.invalid_raw).slot q).map (·.noArch) := by
    intro q
    by_cases hq : q = old
    · rw [hq, ho]
      simp [k', Kvm.setSlot, KvmMemorySlot.noArch]
    · simp [k', Kvm.setSlot, Function.update_of_ne hq]
  refine ⟨k', hk', ?_, rfl, ?_⟩
  · exact hc.congr (fun _ => rfl) (fun _ _ _ => rfl) (fun _ => rfl) (fun _ _ _ => rfl)
      (fun q _ => hslot q) rfl (fun _ hb => hb)
  · intro q hq
    rw [hslot q]
    simp [Kvm.allocSlot, Function.update_of_ne hq]

/-- A call that is classified DELETE or MOVE goes through: the pool gives `invalid_slot`, and a
MOVE also gets its slot and bitmap and stays below the limit. -/
def removalGoesThrough (host : Host) (ans : PoolAnswers) (kvm : Kvm)
    (mem : KvmUserspaceMemoryRegion) : RegionVerdict → Prop
  | .change KVM_MR_DELETE _ => ans.invalid_slot ≠ 0
  | .change KVM_MR_MOVE old => ans.invalid_slot ≠ 0 ∧ ans.new ≠ 0
      ∧ (mem.base_gfn + mem.npages - 1) % 2 ^ 64 ≤ kvm_mmu_max_gfn host
      ∧ (mem.flags &&& KVM_MEM_LOG_DIRTY_PAGES ≠ 0 →
          (slotAt kvm.slot old).dirty_bitmap ≠ 0 ∨ ans.dirty_bitmap ≠ 0)
  | _ => False

/-- A DELETE or MOVE that returns: rejected, it keeps the invariant; successful, it went
through. -/
def RemovalOutcome (l : List Ptr) (R : ℕ → Option Region) (host : Host) (ans : PoolAnswers)
    (kvm : Kvm) (mem : KvmUserspaceMemoryRegion) (v : RegionVerdict)
    (res : Option (NtStatus × Kvm)) : Prop :=
  ∀ r kvm', res = some (r, kvm') → (r ≠ STATUS_SUCCESS → Consistent kvm' l R)
    ∧ (r = STATUS_SUCCESS → removalGoesThrough host ans kvm mem v)

/-- `kvm_set_memslot` for DELETE and MOVE when the pool gives no `invalid_slot`. -/
theorem kvm_set_memslot_no_invalid {new : Ptr} (hc : invalidates change = true)
    (hinv : ans.invalid_slot = 0) :
    kvm_set_memslot fuel host ans k old new change
      = k.lockArch.unlockArch.bind (fun k => some (STATUS_NO_MEMORY, k)) := by
  simp only [kvm_set_memslot, kvm_alloc_invalid_slot, hc, if_true, hinv, Option.bind_eq_bind,
    Kvm.unlockArch, Kvm.lockArch, Nat.succ_ne_zero, if_false, Option.bind_some]
  rfl

/-- `kvm_set_memslot` for DELETE and MOVE when it does. -/
theorem kvm_set_memslot_invalid {new : Ptr} (hc : invalidates change = true)
    (hinv : ans.invalid_slot ≠ 0) :
    kvm_set_memslot fuel host ans k old new change
      = (kvm_invalidate_memslot (k.lockArch.allocSlot ans.invalid_slot ans.invalid_raw) old
          ans.invalid_slot).bind (fun k =>
        (kvm_prepare_memory_region host ans k old new change).bind (fun rk =>
          if rk.1 ≠ STATUS_SUCCESS then some rk
          else (kvm_install_memslot fuel rk.2 old new ans.invalid_slot change).bind (fun k =>
            (k.freeSlot ans.invalid_slot).bind (fun k =>
              (kvm_commit_memory_region ans k old new change).bind (fun k =>
                some (STATUS_SUCCESS, k)))))) := by
  simp only [kvm_set_memslot, kvm_alloc_invalid_slot, kvm_set_memslot_failed,
    kvm_free_invalid_slot, hc, if_true, if_neg hinv, Option.bind_eq_bind, Option.pure_def,
    Option.bind_assoc, Option.bind_some, ne_eq, not_true_eq_false, if_false]

/-- From the installation on `kvm_set_memslot` only returns success. -/
theorem install_tail_success {new : Ptr} {r : NtStatus} {k' : Kvm}
    (h : (kvm_install_memslot fuel k old new ans.invalid_slot change).bind (fun k =>
      (k.freeSlot ans.invalid_slot).bind (fun k =>
        (kvm_commit_memory_region ans k old new change).bind (fun k =>
          some (STATUS_SUCCESS, k)))) = some (r, k')) : r = STATUS_SUCCESS := by
  obtain ⟨k1, -, h⟩ := Option.bind_eq_some_iff.1 h
  obtain ⟨k2, -, h⟩ := Option.bind_eq_some_iff.1 h
  obtain ⟨k3, -, h⟩ := Option.bind_eq_some_iff.1 h
  exact (Prod.mk.inj (Option.some.inj h)).1.symm

/-- **DELETE.** -/
theorem apply_delete_spec (h : Consistent kvm l R) :
    RemovalOutcome l R host ans kvm mem (.change KVM_MR_DELETE old)
      (kvm_apply_change fuel host ans kvm mem KVM_MR_DELETE old) := by
  intro r kvm' hres
  rw [kvm_apply_change, if_pos rfl] at hres
  by_cases hinv : ans.invalid_slot = 0
  · obtain ⟨k', ek', hk', -⟩ := unlockArch_spec (h.lock (kvm.slots_arch_lock + 1))
      (Nat.succ_ne_zero _)
    rw [kvm_set_memslot_no_invalid rfl hinv, show kvm.lockArch.unlockArch = some k' from ek',
      Option.bind_some] at hres
    obtain ⟨rfl, rfl⟩ := Prod.mk.inj (Option.some.inj hres)
    exact ⟨fun _ => hk', fun hr => absurd hr (by simp)⟩
  · refine ⟨fun hr => ?_, fun _ => hinv⟩
    -- past the allocation nothing of a DELETE fails
    exfalso
    rw [kvm_set_memslot_invalid rfl hinv] at hres
    obtain ⟨k1, -, hres⟩ := Option.bind_eq_some_iff.1 hres
    rw [show kvm_prepare_memory_region host ans k1 old 0 KVM_MR_DELETE
      = some (STATUS_SUCCESS, k1) from rfl, Option.bind_some, if_neg (by simp)] at hres
    exact hr (install_tail_success hres)

/-- **MOVE.** -/
theorem apply_move_spec (h : Consistent kvm l R) (hf : ans.Fresh kvm)
    (hv : VerdictOk kvm l mem (.change KVM_MR_MOVE old)) :
    RemovalOutcome l R host ans kvm mem (.change KVM_MR_MOVE old)
      (kvm_apply_change fuel host ans kvm mem KVM_MR_MOVE old) := by
  have hmem : old ∈ l := hv.1
  intro r kvm' hres
  rw [kvm_apply_change, if_neg (by simp)] at hres
  by_cases hnew : ans.new = 0
  · rw [if_pos hnew] at hres
    obtain ⟨rfl, rfl⟩ := Prod.mk.inj (Option.some.inj hres)
    exact ⟨fun _ => h, fun hr => absurd hr (by simp)⟩
  rw [if_neg hnew] at hres
  obtain ⟨k, ek, hk, hfresh, hkslot, hkpool, -, -⟩ := alloc_new_spec mem h hf hnew
  simp only [ek, Option.bind_eq_bind, Option.bind_some] at hres
  obtain ⟨⟨r', k'⟩, hset, hres⟩ := Option.bind_eq_some_iff.1 hres
  obtain ⟨k'', hfree, hres⟩ := Option.bind_eq_some_iff.1 hres
  obtain ⟨rfl, rfl⟩ := Prod.mk.inj (Option.some.inj hres)
  -- what is left to show is about `kvm_set_memslot`
  suffices hgoal : (r' ≠ STATUS_SUCCESS → Consistent k' l R ∧ (k'.slot ans.new).isSome)
      ∧ (r' = STATUS_SUCCESS → removalGoesThrough host ans kvm mem (.change KVM_MR_MOVE old)) by
    refine ⟨fun hr => ?_, hgoal.2⟩
    obtain ⟨hc, hs⟩ := hgoal.1 hr
    obtain ⟨k3, e3, hc3, -⟩ := free_slot_spec hc hfresh.notMem hs
    rw [kvm_free_new_slot, if_pos hr, e3] at hfree
    obtain rfl := Option.some.inj hfree
    exact hc3
  by_cases hinv : ans.invalid_slot = 0
  · obtain ⟨k1, ek1, hk1, hs1⟩ := unlockArch_spec (hk.lock (k.slots_arch_lock + 1))
      (Nat.succ_ne_zero _)
    rw [kvm_set_memslot_no_invalid rfl hinv, show k.lockArch.unlockArch = some k1 from ek1,
      Option.bind_some] at hset
    obtain ⟨rfl, rfl⟩ := Prod.mk.inj (Option.some.inj hset)
    refine ⟨fun _ => ⟨hk1, ?_⟩, fun hr => absurd hr (by simp)⟩
    rw [hs1]
    exact hfresh.slot
  obtain ⟨-, hinone, hine⟩ := hf.invalid hinv
  obtain ⟨k1, ek1, hk1, hpool1, hslot1⟩ := alloc_invalid_spec ans
    (hk.lock (k.slots_arch_lock + 1)) hmem (h.not_mem hinone)
  rw [kvm_set_memslot_invalid rfl hinv, show kvm_invalidate_memslot
    (k.lockArch.allocSlot ans.invalid_slot ans.invalid_raw) old ans.invalid_slot = some k1 from ek1,
    Option.bind_some] at hset
  -- the preparation
  have hslotn := hslot1 ans.new (Ne.symm hine)
  rw [show ({ k with slots_arch_lock := k.slots_arch_lock + 1 } : Kvm).slot ans.new
      = some (newFields ans.new_raw mem) by
    show k.slot ans.new = _
    rw [hkslot, Function.update_self]] at hslotn
  obtain ⟨n, hn, hnn⟩ := Option.map_eq_some_iff.1 hslotn
  have hnf := noArch_fields hnn
  have hold0 : old ≠ 0 := ((h.holds false).nodePtr old hmem).1
  have hold : old ≠ ans.new := fun e => hfresh.notMem (e ▸ hmem)
  have hob1 : (slotAt k1.slot old).dirty_bitmap = (slotAt kvm.slot old).dirty_bitmap := by
    have hio : old ≠ ans.invalid_slot := fun e => h.not_mem hinone (e ▸ hmem)
    have hso : (k1.slot old).map (·.noArch) = (kvm.slot old).map (·.noArch) := by
      rw [hslot1 old hio]
      show (k.slot old).map _ = _
      rw [hkslot, Function.update_of_ne hold]
    exact (noArch_fields (slotAt_noArch hso)).2.2.1
  have hob : old_dirty_bitmap k1 old = some (slotAt kvm.slot old).dirty_bitmap := by
    rw [old_dirty_bitmap, if_pos hold0, slot_eq_slotAt (hk1.disjoint.slots old hmem),
      Option.map_some, hob1]
  have hprep : PrepareOutcome host ans k1 ans.new (slotAt kvm.slot old).dirty_bitmap n KVM_MR_MOVE
        (kvm_prepare_memory_region host ans k1 old ans.new KVM_MR_MOVE)
      ∨ (kvm_prepare_memory_region host ans k1 old ans.new KVM_MR_MOVE = none
        ∧ ¬ ans.metadataOk host) := by
    refine kvm_prepare_memory_region_spec (by simp) hn hob ?_ hnew hold (by simp) ?_
    · intro hb
      rw [← hob1] at hb ⊢
      exact hk1.bitmapLive old hmem hb
    · intro hb
      rw [hpool1, ← hf.bitmap hb, ← hkpool]
  rcases hprep with ⟨r2, k2, m, e2, hp2, hm2, hok⟩ | ⟨e2, -⟩
  swap
  · rw [e2] at hset
    cases hset
  rw [e2, Option.bind_some] at hset
  by_cases hr2 : r2 ≠ STATUS_SUCCESS
  · rw [if_pos hr2] at hset
    obtain ⟨rfl, rfl⟩ := Prod.mk.inj (Option.some.inj hset)
    refine ⟨fun _ => ⟨hk1.prepared hfresh.notMem hp2, ?_⟩, fun hr => absurd hr hr2⟩
    rw [hm2]
    rfl
  rw [if_neg hr2] at hset
  obtain ⟨hfrom, -, hlog, hmax⟩ := hok (not_not.1 hr2)
  refine ⟨fun hr => absurd (install_tail_success hset) hr, fun _ => ⟨hinv, hnew, ?_, ?_⟩⟩
  · have := hmax (by simp)
    rw [belowMaxGfn, hnf.1, hnf.2.1] at this
    exact this
  · intro hfl
    have hb : m.dirty_bitmap ≠ 0 := by
      intro h0
      have := hlog.1 h0
      rw [hnf.2.2.2.1] at this
      exact hfl this
    rcases hfrom with h0 | ⟨-, h0⟩ | ⟨h1, -, -⟩
    · exact absurd h0 hb
    · exact .inl h0
    · exact .inr (by rw [← h1]; exact hb)

/-- **One call.** From a consistent state, a call that is not a DELETE or MOVE going through either
returns in a consistent state that shows the regions it should, or the pool failed it for
metadata. -/
theorem kvm_set_memory_region_spec (mem : KvmUserspaceMemoryRegion) (host : Host)
    (h : Consistent kvm l R) (hf : ans.Fresh kvm) (hfuel : KVM_MEM_SLOTS_NUM < fuel) :
    (∀ r kvm', kvm_set_memory_region fuel host ans kvm mem = some (r, kvm') →
      (r = STATUS_SUCCESS → ∀ v, kvm_classify_region fuel kvm mem = some v →
        ¬ removalGoesThrough host ans kvm mem v) →
      ∃ l', Consistent kvm' l' (if r = STATUS_SUCCESS then applyRegion R mem else R))
    ∧ (ans.metadataOk host →
      (∀ c old, kvm_classify_region fuel kvm mem = some (.change c old) → invalidates c = false) →
      kvm_set_memory_region fuel host ans kvm mem ≠ none) := by
  have hlen : l.length < fuel := Nat.lt_of_le_of_lt h.length_le hfuel
  obtain ⟨v, hv, hok⟩ := kvm_classify_region_spec mem h hlen
  have hcall : ∀ c old, v = .change c old → kvm_set_memory_region fuel host ans kvm mem
      = kvm_apply_change fuel host ans kvm mem c old := by
    rintro c old rfl
    simp only [kvm_set_memory_region, hv, Option.bind_eq_bind, Option.bind_some]
  -- CREATE and FLAGS_ONLY: what is proved of the change carries over to the call
  have hreturned : ∀ c old, v = .change c old →
      (Returned R mem (kvm_apply_change fuel host ans kvm mem c old)
        ∨ (kvm_apply_change fuel host ans kvm mem c old = none ∧ ¬ ans.metadataOk host)) →
      (∀ r kvm', kvm_set_memory_region fuel host ans kvm mem = some (r, kvm') →
        ∃ l', Consistent kvm' l' (if r = STATUS_SUCCESS then applyRegion R mem else R))
      ∧ (ans.metadataOk host → kvm_set_memory_region fuel host ans kvm mem ≠ none) := by
    intro c old hvc hdone
    rw [hcall c old hvc]
    rcases hdone with ⟨r, kvm', l', e, hc⟩ | ⟨e, hbad⟩
    · rw [e]
      refine ⟨?_, fun _ => by simp⟩
      intro r1 k1 hk
      obtain ⟨rfl, rfl⟩ := Prod.mk.inj (Option.some.inj hk)
      exact ⟨l', hc⟩
    · rw [e]
      exact ⟨fun r1 k1 hk => absurd hk (by simp), fun hgood => absurd hgood hbad⟩
  -- DELETE and MOVE
  have hremoved : ∀ c old, v = .change c old →
      RemovalOutcome l R host ans kvm mem v (kvm_apply_change fuel host ans kvm mem c old) →
      (∀ r kvm', kvm_set_memory_region fuel host ans kvm mem = some (r, kvm') →
        (r = STATUS_SUCCESS → ∀ v, kvm_classify_region fuel kvm mem = some v →
          ¬ removalGoesThrough host ans kvm mem v) →
        ∃ l', Consistent kvm' l' (if r = STATUS_SUCCESS then applyRegion R mem else R)) := by
    intro c old hvc hout r kvm' hk hno
    rw [hcall c old hvc] at hk
    obtain ⟨h1, h2⟩ := hout r kvm' hk
    by_cases hr : r = STATUS_SUCCESS
    · exact absurd (h2 hr) (hno hr _ hv)
    · rw [if_neg hr]
      exact ⟨l, h1 hr⟩
  match v, hok, hv, hreturned, hremoved with
  | .ret r, hok, hv, _, _ =>
    have hret : kvm_set_memory_region fuel host ans kvm mem = some (r, kvm) := by
      simp only [kvm_set_memory_region, hv, Option.bind_eq_bind, Option.bind_some]
      rfl
    rw [hret]
    refine ⟨?_, fun _ _ => by simp⟩
    intro r1 k1 hk _
    obtain ⟨rfl, rfl⟩ := Prod.mk.inj (Option.some.inj hk)
    by_cases hr : r = STATUS_SUCCESS
    · -- nothing to change: the region is there already
      obtain ⟨hsz, p, hp, hid, hreg⟩ := hok hr
      have hR : R mem.id = some mem.region := (h.regions mem.id mem.region).2 ⟨p, hp, hid, hreg⟩
      rw [if_pos hr, applyRegion, if_neg hsz, ← hR, Function.update_eq_self]
      exact ⟨l, h⟩
    · rw [if_neg hr]
      exact ⟨l, h⟩
  | .change KVM_MR_CREATE old, hok, _, hreturned, _ =>
    obtain ⟨h1, h2⟩ := hreturned _ old rfl (apply_create_spec h hf hlen hok)
    exact ⟨fun r k hk _ => h1 r k hk, fun hm _ => h2 hm⟩
  | .change KVM_MR_FLAGS_ONLY old, hok, _, hreturned, _ =>
    obtain ⟨h1, h2⟩ := hreturned _ old rfl (apply_flags_spec h hf hok)
    exact ⟨fun r k hk _ => h1 r k hk, fun hm _ => h2 hm⟩
  | .change KVM_MR_MOVE old, hok, hv, _, hremoved =>
    exact ⟨hremoved _ old rfl (apply_move_spec h hf hok),
      fun _ hno => absurd (hno _ _ hv) (by decide)⟩
  | .change KVM_MR_DELETE old, _, hv, _, hremoved =>
    exact ⟨hremoved _ old rfl (apply_delete_spec h),
      fun _ hno => absurd (hno _ _ hv) (by decide)⟩

end call

/-! ## Runs -/

/-- The states reached from `kvm_create_vm` by calls that each satisfy `ok` (a condition on the
state before the call, the answers of the pool, the request and the status), with the regions the
successful calls ask for. -/
inductive Run (fuel : ℕ) (host : Host)
    (ok : Kvm → PoolAnswers → KvmUserspaceMemoryRegion → NtStatus → Prop) :
    (ℕ → Option Region) → Kvm → Prop where
  | create_vm : Run fuel host ok (fun _ => none) kvm_create_vm
  | call {R : ℕ → Option Region} {kvm kvm' : Kvm} {ans : PoolAnswers}
      {mem : KvmUserspaceMemoryRegion} {r : NtStatus} (hrun : Run fuel host ok R kvm)
      (hfresh : ans.Fresh kvm)
      (hcall : kvm_set_memory_region fuel host ans kvm mem = some (r, kvm'))
      (hok : ok kvm ans mem r) :
      Run fuel host ok (if r = STATUS_SUCCESS then applyRegion R mem else R) kvm'

/-- A call that is rejected, changes nothing, or is classified CREATE or FLAGS_ONLY. -/
def createsOrUpdates (fuel : ℕ) (kvm : Kvm) (mem : KvmUserspaceMemoryRegion) (r : NtStatus) :
    Prop :=
  r = STATUS_SUCCESS → ∀ c old, kvm_classify_region fuel kvm mem = some (.change c old) →
    c = KVM_MR_CREATE ∨ c = KVM_MR_FLAGS_ONLY

/-- No DELETE or MOVE goes through. -/
def removesNothing (fuel : ℕ) (host : Host) (kvm : Kvm) (ans : PoolAnswers)
    (mem : KvmUserspaceMemoryRegion) : Prop :=
  ∀ v, kvm_classify_region fuel kvm mem = some v → ¬ removalGoesThrough host ans kvm mem v

/-- A run whose calls keep DELETE and MOVE from going through stays consistent. -/
theorem Run.consistent {fuel : ℕ} {host : Host}
    {ok : Kvm → PoolAnswers → KvmUserspaceMemoryRegion → NtStatus → Prop}
    {R : ℕ → Option Region} {kvm : Kvm} (hfuel : KVM_MEM_SLOTS_NUM < fuel)
    (hok : ∀ kvm ans mem r, ok kvm ans mem r → r = STATUS_SUCCESS →
      removesNothing fuel host kvm ans mem)
    (hrun : Run fuel host ok R kvm) : ∃ l, Consistent kvm l R := by
  induction hrun with
  | create_vm => exact ⟨[], consistent_create_vm⟩
  | @call R kvm kvm' ans mem r _ hfresh hcall hk ih =>
    obtain ⟨l, hl⟩ := ih
    exact (kvm_set_memory_region_spec mem host hl hfresh hfuel).1 r kvm' hcall
      (fun hr => hok kvm ans mem r hk hr)

theorem createsOrUpdates_removesNothing {fuel : ℕ} {host : Host} {kvm : Kvm} {ans : PoolAnswers}
    {mem : KvmUserspaceMemoryRegion} {r : NtStatus} (h : createsOrUpdates fuel kvm mem r)
    (hr : r = STATUS_SUCCESS) : removesNothing fuel host kvm ans mem := by
  intro v hv hthrough
  match v, hv, hthrough with
  | .change KVM_MR_DELETE old, hv, _ => rcases h hr _ _ hv with h | h <;> cases h
  | .change KVM_MR_MOVE old, hv, _ => rcases h hr _ _ hv with h | h <;> cases h

/-- **The memslot invariant.** After every call of a run of CREATE, FLAGS_ONLY and rejected calls
there are slots `l` that both sets hold: each set's tree is a search tree on `base_gfn` with just
these slots, its hash table has just them, their ids are distinct and their ranges non-empty and
disjoint; `id_to_memslot` finds the slot of an id exactly if there is one; `nr_memslot_pages` is
the sum of their sizes and has not wrapped. A further such call returns, unless the pool fails it
for metadata. -/
theorem memslots_consistent {fuel : ℕ} {host : Host} {R : ℕ → Option Region} {kvm : Kvm}
    (hfuel : KVM_MEM_SLOTS_NUM < fuel)
    (hrun : Run fuel host (fun kvm _ mem r => createsOrUpdates fuel kvm mem r) R kvm) :
    ∃ l, (∀ idx, SetHolds kvm.slot (kvm.memslots idx) l)
      ∧ DisjointSlots kvm.slot l
      ∧ l.Pairwise (fun p q => (slotAt kvm.slot p).id ≠ (slotAt kvm.slot q).id)
      ∧ (∀ idx id, ∃ p, id_to_memslot fuel kvm idx id = some p
          ∧ (p ≠ 0 ↔ ∃ q ∈ l, (slotAt kvm.slot q).id = id)
          ∧ (p ≠ 0 → p ∈ l ∧ (slotAt kvm.slot p).id = id))
      ∧ kvm.nr_memslot_pages = (l.map (fun p => (slotAt kvm.slot p).npages)).sum
      ∧ kvm.nr_memslot_pages < 2 ^ 64
      ∧ ∀ (ans : PoolAnswers) (mem : KvmUserspaceMemoryRegion), ans.Fresh kvm →
          ans.metadataOk host →
          (∀ c old, kvm_classify_region fuel kvm mem = some (.change c old) →
            c = KVM_MR_CREATE ∨ c = KVM_MR_FLAGS_ONLY) →
          kvm_set_memory_region fuel host ans kvm mem ≠ none := by
  obtain ⟨l, h⟩ := hrun.consistent hfuel
    (fun _ _ _ _ hok hr => createsOrUpdates_removesNothing hok hr)
  have hlen : l.length < fuel := Nat.lt_of_le_of_lt h.length_le hfuel
  refine ⟨l, h.holds, h.disjoint, h.ids, ?_, h.pages, h.pagesLt, ?_⟩
  · intro idx id
    obtain ⟨p, hp, hfound, hnone⟩ := id_to_memslot_spec id (h.holds idx) hlen
    refine ⟨p, hp, ⟨fun h0 => ⟨p, hfound h0⟩, ?_⟩, hfound⟩
    rintro ⟨q, hq, hid⟩ h0
    exact hnone h0 q hq hid
  · intro ans mem hfresh hmeta hclass
    refine (kvm_set_memory_region_spec mem host h hfresh hfuel).2 hmeta ?_
    intro c old hc
    rcases hclass c old hc with rfl | rfl <;> rfl

/-- Both sets hold the same slots, and these show the regions `R`. -/
def BothShow (kvm : Kvm) (R : ℕ → Option Region) : Prop :=
  ∃ l, (∀ idx, SetHolds kvm.slot (kvm.memslots idx) l) ∧ ShowRegions kvm.slot l R

/-- **Both sets show what was asked for**, in every state of a run in which no DELETE or MOVE goes
through. -/
theorem both_sets_show {fuel : ℕ} {host : Host} {R : ℕ → Option Region} {kvm : Kvm}
    (hfuel : KVM_MEM_SLOTS_NUM < fuel)
    (hrun : Run fuel host (fun kvm ans mem _ => removesNothing fuel host kvm ans mem) R kvm) :
    BothShow kvm R := by
  obtain ⟨l, h⟩ := hrun.consistent hfuel (fun _ _ _ _ hok _ => hok)
  exact ⟨l, h.holds, h.regions⟩

/-! ## A run with a DELETE

CREATE of id 1 at gfn 0, DELETE of id 1, CREATE of id 2 at gfn 1, all with blocks of zeroes from
the pool. The DELETE takes `invalid_slot`, a block of zeroes, out of the second set: `hash_del`
finds it in no list and does nothing, so that set keeps the slot of id 1 in its hash table, and
the next swap makes it the active one. -/

def exampleHost : Host := ⟨true, true, 40⟩

def zeroRaw : RawSlot := ⟨⟨0, 0, 0, .zero, 0, 0, 0⟩, fun _ => ⟨0, .null⟩, fun _ => ⟨0, 0, 0⟩⟩

/-- A pool that answers with the given addresses and blocks of zeroes. -/
def exampleAnswers (new invalid_slot lpage₀ lpage₁ : Ptr) : PoolAnswers where
  new := new
  new_raw := zeroRaw
  invalid_slot := invalid_slot
  invalid_raw := zeroRaw
  dirty_bitmap := 0
  rmap _ := 0
  lpage_info i := if i.val = 0 then lpage₀ else lpage₁
  lpage_raw _ _ := 0
  zapped := 0

def createRequest (id page : ℕ) : KvmUserspaceMemoryRegion :=
  ⟨BitVec.ofNat 32 id, 0, BitVec.ofNat 64 (page * 4096), 4096⟩

def deleteRequest (id : ℕ) : KvmUserspaceMemoryRegion := ⟨BitVec.ofNat 32 id, 0, 0, 0⟩

/-- The state after a call, `kvm` itself if it does not return. -/
def afterCall (ans : PoolAnswers) (kvm : Kvm) (mem : KvmUserspaceMemoryRegion) : Kvm :=
  ((kvm_set_memory_region 32768 exampleHost ans kvm mem).getD (STATUS_UNSUCCESSFUL, kvm)).2

theorem call_eq_afterCall {ans : PoolAnswers} {kvm : Kvm} {mem : KvmUserspaceMemoryRegion}
    {r : NtStatus}
    (h : (kvm_set_memory_region 32768 exampleHost ans kvm mem).map Prod.fst = some r) :
    kvm_set_memory_region 32768 exampleHost ans kvm mem = some (r, afterCall ans kvm mem) := by
  obtain ⟨⟨r', k⟩, hk, rfl⟩ := Option.map_eq_some_iff.1 h
  rw [afterCall, hk, Option.getD_some]

def kvmCreated : Kvm := afterCall (exampleAnswers 16 0 64 68) kvm_create_vm (createRequest 1 0)
def kvmDeleted : Kvm := afterCall (exampleAnswers 0 32 0 0) kvmCreated (deleteRequest 1)
def kvmCreatedAgain : Kvm :=
  afterCall (exampleAnswers 48 0 72 76) kvmDeleted (createRequest 2 1)

theorem exampleAnswers_fresh {kvm : Kvm} {new inv l₀ l₁ : Ptr} (hnew : new % 4 = 0)
    (hinv : inv % 4 = 0) (hsn : (kvm.slot new).isNone) (hsi : (kvm.slot inv).isNone)
    (hne : inv = 0 ∨ inv ≠ new) (hl : (kvm.pool l₀).isNone ∧ (kvm.pool l₁).isNone)
    (hl0 : l₀ ≠ 0 → l₀ ≠ l₁) : (exampleAnswers new inv l₀ l₁).Fresh kvm := by
  refine ⟨fun h => ⟨⟨h, hnew⟩, Option.isNone_iff_eq_none.1 hsn⟩,
    fun h => ⟨⟨h, hinv⟩, Option.isNone_iff_eq_none.1 hsi, ?_⟩, fun h => absurd rfl h, fun i h => absurd rfl h, ?_, fun i j h => absurd rfl h, ?_,
    fun i j h => absurd rfl h⟩
  · rcases hne with h0 | hne
    · exact absurd h0 h
    · exact hne
  · intro i hi
    match i, hi with
    | 0, hi => exact ⟨Option.isNone_iff_eq_none.1 hl.1, hi⟩
    | 1, hi => exact ⟨Option.isNone_iff_eq_none.1 hl.2, hi⟩
  · intro i j hi he
    match i, j, hi, he with
    | 0, 0, _, _ => rfl
    | 1, 1, _, _ => rfl
    | 0, 1, hi, he => exact absurd he (hl0 hi)
    | 1, 0, hi, he =>
      have he' : l₁ = l₀ := he
      exact absurd he'.symm (hl0 (by rw [← he']; exact hi))

theorem run_created {ok : Kvm → PoolAnswers → KvmUserspaceMemoryRegion → NtStatus → Prop}
    (hok : ok kvm_create_vm (exampleAnswers 16 0 64 68) (createRequest 1 0) STATUS_SUCCESS) :
    Run 32768 exampleHost ok (applyRegion (fun _ => none) (createRequest 1 0)) kvmCreated := by
  have hfresh : (exampleAnswers 16 0 64 68).Fresh kvm_create_vm :=
    exampleAnswers_fresh (by decide) (by decide) rfl rfl (.inl rfl) ⟨rfl, rfl⟩ (by decide)
  have hcall : kvm_set_memory_region 32768 exampleHost (exampleAnswers 16 0 64 68) kvm_create_vm
      (createRequest 1 0) = some (STATUS_SUCCESS, kvmCreated) :=
    call_eq_afterCall (by decide +kernel)
  exact Run.call .create_vm hfresh hcall hok

theorem classify_created : kvm_classify_region 32768 kvm_create_vm (createRequest 1 0)
    = some (.change KVM_MR_CREATE 0) := by decide +kernel

theorem memslots_consistent_created :
    kvmCreated.nr_memslot_pages = 1
      ∧ ∃ l, (∀ idx, SetHolds kvmCreated.slot (kvmCreated.memslots idx) l)
        ∧ kvmCreated.nr_memslot_pages
          = (l.map (fun p => (slotAt kvmCreated.slot p).npages)).sum := by
  refine ⟨by decide +kernel, ?_⟩
  obtain ⟨l, h1, -, -, -, h2, -⟩ :=
    memslots_consistent (show KVM_MEM_SLOTS_NUM < 32768 by decide)
      (run_created (fun _ c old hc => by
        rw [classify_created] at hc
        cases hc
        exact .inl rfl))
  exact ⟨l, h1, h2⟩

theorem both_sets_show_created :
    BothShow kvmCreated (applyRegion (fun _ => none) (createRequest 1 0)) :=
  both_sets_show (show KVM_MEM_SLOTS_NUM < 32768 by decide)
    (run_created (fun v hv hthrough => by
      rw [classify_created] at hv
      cases hv
      exact hthrough))

/-- **A deleted slot comes back.** The DELETE of the run above succeeds but leaves the sets
different: `id_to_memslot` still finds the slot in the inactive set. After the next call it finds
it in the active one. -/
theorem deleted_slot_comes_back :
    Run 32768 exampleHost (fun _ _ _ _ => True)
        (applyRegion (applyRegion (fun _ => none) (createRequest 1 0)) (deleteRequest 1)) kvmDeleted
      ∧ ¬ BothShow kvmDeleted
        (applyRegion (applyRegion (fun _ => none) (createRequest 1 0)) (deleteRequest 1))
      ∧ kvm_set_memory_region 32768 exampleHost (exampleAnswers 48 0 72 76) kvmDeleted
          (createRequest 2 1) = some (STATUS_SUCCESS, kvmCreatedAgain)
      ∧ id_to_memslot 32768 kvmDeleted kvmDeleted.active 1 = some 0
      ∧ id_to_memslot 32768 kvmCreatedAgain kvmCreatedAgain.active 1 = some 16 := by
  refine ⟨?_, ?_, call_eq_afterCall (by decide +kernel), by decide +kernel, by decide +kernel⟩
  · have hfresh : (exampleAnswers 0 32 0 0).Fresh kvmCreated :=
      exampleAnswers_fresh (by decide) (by decide) (by decide +kernel) (by decide +kernel)
        (.inr (by decide)) ⟨by decide +kernel, by decide +kernel⟩ (by decide)
    have hcall : kvm_set_memory_region 32768 exampleHost (exampleAnswers 0 32 0 0) kvmCreated
        (deleteRequest 1) = some (STATUS_SUCCESS, kvmDeleted) :=
      call_eq_afterCall (by decide +kernel)
    exact Run.call (run_created trivial) hfresh hcall trivial
  · rintro ⟨l, hl, -⟩
    -- the tree of the inactive set is empty, its hash table is not
    have hroot : (kvmDeleted.memslots (!kvmDeleted.active)).gfn_tree.rb_node = 0 := by
      decide +kernel
    have hfind : id_to_memslot 32768 kvmDeleted (!kvmDeleted.active) 1 = some 16 := by
      decide +kernel
    have hset := hl (!kvmDeleted.active)
    obtain rfl := hset.nil_of_root hroot
    obtain ⟨p, hp, hfound, -⟩ := id_to_memslot_spec 1 hset (show [].length < 32768 by decide)
    rw [hfind] at hp
    obtain rfl := Option.some.inj hp
    exact absurd (hfound (by decide)).1 List.not_mem_nil

end Svmx.MemSlot
