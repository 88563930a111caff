/-
Whole runs of `__kvm_set_memory_region`.

`Consistent kvm l` is the invariant of the layer: both memslot sets hold exactly the slots `l`,
the slots are non-empty and pairwise disjoint with distinct ids, `nr_memslot_pages` is their sum,
and each dirty bitmap is a live block of one slot. A call that creates a slot, changes the flags of
one, or is rejected keeps it. The successful DELETE and MOVE do not: they take `invalid_slot`,
which was never linked anywhere, out of the second set in place of `old`.
-/
import Svmx.MemPrepare

set_option autoImplicit false

namespace Svmx.MemSlot

open ColorTree RbTree Hlist NtStatus KvmMrChange

/-! ## The guest memory map -/

/-- A memory region as its user sees it. -/
structure Region where
  base_gfn : ℕ
  npages : ℕ
  flags : BitVec 32
deriving DecidableEq

def KvmMemorySlot.region (m : KvmMemorySlot) : Region := ⟨m.base_gfn, m.npages, m.flags⟩

def KvmUserspaceMemoryRegion.region (mem : KvmUserspaceMemoryRegion) : Region :=
  ⟨mem.base_gfn, mem.npages, mem.flags⟩

/-- What a successful request means for the regions by id: size zero removes the region of that
id, any other request sets it. -/
def applyRegion (R : ℕ → Option Region) (mem : KvmUserspaceMemoryRegion) : ℕ → Option Region :=
  Function.update R mem.id (if mem.memory_size = 0 then none else some mem.region)

/-- The slots `l` are the regions `R`. -/
def ShowRegions (slot : Ptr → Option KvmMemorySlot) (l : List Ptr) (R : ℕ → Option Region) :
    Prop :=
  ∀ id reg, R id = some reg ↔ ∃ p ∈ l, (slotAt slot p).id = id ∧ (slotAt slot p).region = reg

/-! ## The invariant -/

/-- Both sets hold the slots `l`, which are what `__kvm_set_memory_region` promises and show the
regions `R`. -/
structure Consistent (kvm : Kvm) (l : List Ptr) (R : ℕ → Option Region) : Prop where
  holds : ∀ idx, SetHolds kvm.slot (kvm.memslots idx) l
  disjoint : DisjointSlots kvm.slot l
  ids : l.Pairwise (fun p q => (slotAt kvm.slot p).id ≠ (slotAt kvm.slot q).id)
  idLt : ∀ p ∈ l, (slotAt kvm.slot p).id < KVM_MEM_SLOTS_NUM
  asId : ∀ p ∈ l, (slotAt kvm.slot p).as_id = 0
  pages : kvm.nr_memslot_pages = (l.map (fun p => (slotAt kvm.slot p).npages)).sum
  pagesLt : kvm.nr_memslot_pages < 2 ^ 64
  bitmapLive : ∀ p ∈ l, (slotAt kvm.slot p).dirty_bitmap ≠ 0 →
    (kvm.pool (slotAt kvm.slot p).dirty_bitmap).isSome
  bitmapOwn : ∀ p ∈ l, ∀ q ∈ l, (slotAt kvm.slot p).dirty_bitmap ≠ 0 →
    (slotAt kvm.slot p).dirty_bitmap = (slotAt kvm.slot q).dirty_bitmap → p = q
  regions : ShowRegions kvm.slot l R

/-- The state `kvm_create_vm` builds holds no slot. -/
theorem consistent_create_vm : Consistent kvm_create_vm [] (fun _ => none) := by
  refine ⟨fun idx => ⟨⟨.leaf, ⟨⟨trivial, rfl, by simp [Ctx.labels], by simp [Ctx.labels]⟩,
    ⟨rfl, 0, .leaf⟩, by simp, by simp⟩, rfl⟩, fun _ => [], ⟨?_, by simp, by simp⟩, by simp⟩,
    ⟨by simp, by simp, by simp, by simp⟩, by simp, by simp, by simp, rfl, by decide, by simp,
    by simp, by simp [ShowRegions]⟩
  intro b
  rfl

/-- There are fewer slots than ids. -/
theorem Consistent.length_le {kvm : Kvm} {l : List Ptr} {R : ℕ → Option Region}
    (h : Consistent kvm l R) :
    l.length ≤ KVM_MEM_SLOTS_NUM := by
  have hnd : (l.map (fun p => (slotAt kvm.slot p).id)).Nodup := by
    rw [List.Nodup, List.pairwise_map]
    exact h.ids
  have hsub : l.map (fun p => (slotAt kvm.slot p).id) ⊆ List.range KVM_MEM_SLOTS_NUM := by
    intro i hi
    obtain ⟨p, hp, rfl⟩ := List.mem_map.1 hi
    exact List.mem_range.2 (h.idLt p hp)
  have := (List.subperm_of_subset hnd hsub).length_le
  simpa using this

/-- Slots that agree up to arch data agree in every field the invariant reads. -/
theorem slotAt_noArch {slot slot' : Ptr → Option KvmMemorySlot} {p : Ptr}
    (h : (slot' p).map (·.noArch) = (slot p).map (·.noArch)) :
    (slotAt slot' p).noArch = (slotAt slot p).noArch := by
  rw [slotAt, slotAt]
  cases hs : slot p with
  | none =>
    cases hs' : slot' p with
    | none => rfl
    | some m' => rw [hs, hs'] at h; cases h
  | some m =>
    cases hs' : slot' p with
    | none => rw [hs, hs'] at h; cases h
    | some m' =>
      rw [hs, hs'] at h
      simpa using h

/-- The fields of slots that agree up to arch data. -/
theorem noArch_fields {m m' : KvmMemorySlot} (h : m'.noArch = m.noArch) :
    m'.base_gfn = m.base_gfn ∧ m'.npages = m.npages ∧ m'.dirty_bitmap = m.dirty_bitmap
      ∧ m'.flags = m.flags ∧ m'.id = m.id ∧ m'.as_id = m.as_id := by
  simpa [KvmMemorySlot.noArch] using h

/-- The invariant survives any change outside its slots, their cells, the roots and heads, the
page count and the live bitmaps. -/
theorem Consistent.congr {kvm kvm' : Kvm} {l : List Ptr} {R : ℕ → Option Region}
    (h : Consistent kvm l R)
    (hroot : ∀ idx, (kvm'.memslots idx).gfn_tree.rb_node = (kvm.memslots idx).gfn_tree.rb_node)
    (hrb : ∀ idx, ∀ p ∈ l,
      (kvm'.memslots idx).gfn_tree.node p = (kvm.memslots idx).gfn_tree.node p)
    (hfirst : ∀ idx, (kvm'.memslots idx).id_hash.first = (kvm.memslots idx).id_hash.first)
    (hhl : ∀ idx, ∀ p ∈ l,
      (kvm'.memslots idx).id_hash.node p = (kvm.memslots idx).id_hash.node p)
    (hslot : ∀ p ∈ l, (kvm'.slot p).map (·.noArch) = (kvm.slot p).map (·.noArch))
    (hpages : kvm'.nr_memslot_pages = kvm.nr_memslot_pages)
    (hpool : ∀ b, (kvm.pool b).isSome → (kvm'.pool b).isSome) : Consistent kvm' l R := by
  have hat := fun p hp => noArch_fields (slotAt_noArch (hslot p hp))
  have hbase : ∀ p ∈ l, (slotAt kvm'.slot p).base_gfn = (slotAt kvm.slot p).base_gfn :=
    fun p hp => (hat p hp).1
  have hnp : ∀ p ∈ l, (slotAt kvm'.slot p).npages = (slotAt kvm.slot p).npages :=
    fun p hp => (hat p hp).2.1
  have hbm : ∀ p ∈ l, (slotAt kvm'.slot p).dirty_bitmap = (slotAt kvm.slot p).dirty_bitmap :=
    fun p hp => (hat p hp).2.2.1
  have hid : ∀ p ∈ l, (slotAt kvm'.slot p).id = (slotAt kvm.slot p).id :=
    fun p hp => (hat p hp).2.2.2.2.1
  have hsome : ∀ p ∈ l, (kvm'.slot p).isSome := fun p hp => by
    have := congrArg Option.isSome (hslot p hp)
    simp only [Option.isSome_map] at this
    rw [this]
    exact h.disjoint.slots p hp
  refine ⟨fun idx => (h.holds idx).congr (hroot idx) (hrb idx) (hfirst idx) (hhl idx) hsome hbase
    hid, h.disjoint.congr hsome hbase hnp, ?_, ?_, ?_, ?_, ?_, ?_, ?_, ?_⟩
  · refine h.ids.imp_of_mem ?_
    intro p q hp hq hpq
    rw [hid p hp, hid q hq]
    exact hpq
  · intro p hp
    rw [hid p hp]
    exact h.idLt p hp
  · intro p hp
    exact ((hat p hp).2.2.2.2.2).trans (h.asId p hp)
  · rw [hpages, h.pages]
    exact congrArg List.sum (List.map_congr_left (fun p hp => (hnp p hp).symm))
  · rw [hpages]
    exact h.pagesLt
  · intro p hp
    rw [hbm p hp]
    exact fun hb => hpool _ (h.bitmapLive p hp hb)
  · intro p hp q hq
    rw [hbm p hp, hbm q hq]
    exact h.bitmapOwn p hp q hq
  · have hreg : ∀ p ∈ l, (slotAt kvm'.slot p).region = (slotAt kvm.slot p).region := fun p hp => by
      rw [KvmMemorySlot.region, KvmMemorySlot.region, hbase p hp, hnp p hp, (hat p hp).2.2.2.1]
    intro id reg
    rw [h.regions id reg]
    constructor
    · rintro ⟨p, hp, h1, h2⟩
      exact ⟨p, hp, by rw [hid p hp, h1], by rw [hreg p hp, h2]⟩
    · rintro ⟨p, hp, h1, h2⟩
      exact ⟨p, hp, by rw [← hid p hp, h1], by rw [← hreg p hp, h2]⟩

/-! ## Classification of a request -/

/-- What a verdict says about the request and the slots, for the verdicts that go on. -/
def VerdictOk (kvm : Kvm) (l : List Ptr) (mem : KvmUserspaceMemoryRegion) :
    RegionVerdict → Prop
  | .ret r => r = STATUS_SUCCESS → mem.memory_size ≠ 0
      ∧ ∃ p ∈ l, (slotAt kvm.slot p).id = mem.id ∧ (slotAt kvm.slot p).region = mem.region
  | .change KVM_MR_CREATE old => old = 0 ∧ mem.memory_size ≠ 0 ∧ mem.accepted = true
      ∧ 0 < mem.npages
      ∧ (∀ p ∈ l, (slotAt kvm.slot p).id ≠ mem.id)
      ∧ (∀ p ∈ l, slotEnd kvm.slot p ≤ mem.base_gfn
          ∨ mem.base_gfn + mem.npages ≤ (slotAt kvm.slot p).base_gfn)
      ∧ kvm.nr_memslot_pages + mem.npages < 2 ^ 64
  | .change KVM_MR_FLAGS_ONLY old => old ∈ l ∧ mem.memory_size ≠ 0 ∧ mem.accepted = true
      ∧ (slotAt kvm.slot old).id = mem.id ∧ (slotAt kvm.slot old).npages = mem.npages
      ∧ (slotAt kvm.slot old).base_gfn = mem.base_gfn
  | .change KVM_MR_MOVE old => old ∈ l ∧ mem.accepted = true
  | .change KVM_MR_DELETE old => old ∈ l

namespace KvmUserspaceMemoryRegion

variable {mem : KvmUserspaceMemoryRegion}

/-- What the checks at the head of `__kvm_set_memory_region` leave of a request. -/
theorem accepted_bounds (h : mem.accepted = true) :
    mem.as_id = 0 ∧ mem.id < KVM_MEM_SLOTS_NUM ∧ mem.base_gfn + mem.npages < 2 ^ 64
      ∧ mem.npages < 2 ^ 31 ∧ (mem.memory_size ≠ 0 → 0 < mem.npages) := by
  simp only [accepted, Bool.and_eq_true, decide_eq_true_eq] at h
  obtain ⟨⟨⟨⟨⟨-, hsz⟩, -⟩, has, hid⟩, hwrap⟩, hmax⟩ := h
  have h1 := mem.guest_phys_addr.isLt
  have h2 := mem.memory_size.isLt
  simp only [KVM_ADDRESS_SPACE_NUM, KVM_MEM_MAX_NR_PAGES, PAGE_SIZE, base_gfn, npages] at *
  refine ⟨by omega, hid, by omega, by omega, ?_⟩
  intro hne
  have hne' : mem.memory_size.toNat ≠ 0 := fun h0 => hne (BitVec.eq_of_toNat_eq (by simpa using h0))
  omega

end KvmUserspaceMemoryRegion

/-- **Classification.** The first part of `__kvm_set_memory_region` returns, and a verdict that
goes on is a sound one. -/
theorem kvm_classify_region_spec {kvm : Kvm} {l : List Ptr} {R : ℕ → Option Region}
    (mem : KvmUserspaceMemoryRegion) {fuel : ℕ} (h : Consistent kvm l R) (hfuel : l.length < fuel) :
    ∃ v, kvm_classify_region fuel kvm mem = some v ∧ VerdictOk kvm l mem v := by
  rw [kvm_classify_region]
  by_cases hacc : mem.accepted = true
  swap
  · rw [if_neg hacc]
    exact ⟨_, rfl, fun h => absurd h (by simp)⟩
  rw [if_pos hacc]
  obtain ⟨has, -, hwrap, -, hpos⟩ := KvmUserspaceMemoryRegion.accepted_bounds hacc
  obtain ⟨old, hold, hfound, hnone⟩ := id_to_memslot_spec mem.id (h.holds kvm.active) hfuel
  rw [show kvm_active_memslots kvm mem.as_id = some kvm.active by rw [has]; rfl]
  simp only [Option.bind_eq_bind, Option.bind_some, hold]
  -- the overlap check of a CREATE or MOVE
  obtain ⟨t, ht, htl⟩ := (h.holds kvm.active).tree
  obtain ⟨b, hb, hbiff⟩ := kvm_check_memslot_overlap_spec mem.id mem.base_gfn
    ((mem.base_gfn + mem.npages) % 2 ^ 64) ht.tree (by rw [htl]; exact h.disjoint)
    (by rw [htl]; exact hfuel)
  rw [htl, Nat.mod_eq_of_lt hwrap] at hbiff
  have hover : ∀ c, (c = KVM_MR_CREATE ∨ c = KVM_MR_MOVE) →
      kvm_classify_overlap fuel kvm mem kvm.active (.change c old)
        = some (if b then .ret STATUS_ALREADY_COMMITTED else .change c old) := by
    intro c hc
    rw [kvm_classify_overlap, if_pos hc, hb]
    rfl
  by_cases hold0 : old = 0
  · -- no slot of this id
    have hlive : kvm_live_old kvm old = some none := by rw [kvm_live_old, if_pos hold0]
    rw [kvm_classify_change, hlive]
    simp only [Option.bind_eq_bind, Option.bind_some]
    by_cases hsz : mem.memory_size = 0
    · rw [if_pos hsz]
      exact ⟨_, rfl, fun h => absurd h (by simp)⟩
    rw [if_neg hsz]
    by_cases hnr : (kvm.nr_memslot_pages + mem.npages) % 2 ^ 64 < kvm.nr_memslot_pages
    · rw [if_pos hnr]
      exact ⟨_, rfl, fun h => absurd h (by simp)⟩
    rw [if_neg hnr, Option.pure_def, Option.bind_some, hover _ (.inl rfl)]
    refine ⟨_, rfl, ?_⟩
    by_cases hbt : b = true
    · rw [if_pos hbt]
      exact fun h => absurd h (by simp)
    rw [if_neg hbt]
    refine ⟨hold0, hsz, hacc, hpos hsz, hnone hold0, ?_, ?_⟩
    · intro p hp
      by_contra hcon
      refine hbt (hbiff.2 ⟨p, hp, ?_, ?_, hnone hold0 p hp⟩) <;> omega
    · have := h.pagesLt
      have := (KvmUserspaceMemoryRegion.accepted_bounds hacc).2.2.2.1
      omega
  · obtain ⟨hmem, hid⟩ := hfound hold0
    have hslot := slot_eq_slotAt (h.disjoint.slots old hmem)
    have hnp := h.disjoint.pos old hmem
    have hlive : kvm_live_old kvm old = some (some (slotAt kvm.slot old)) := by
      rw [kvm_live_old, if_neg hold0, hslot, Option.map_some, if_neg (by omega)]
    rw [kvm_classify_change, hlive]
    simp only [Option.bind_eq_bind, Option.bind_some]
    by_cases hsz : mem.memory_size = 0
    · rw [if_pos hsz]
      split
      · exact ⟨_, rfl, fun h => absurd h (by simp)⟩
      · exact ⟨_, rfl, hmem⟩
    rw [if_neg hsz]
    split
    · exact ⟨_, rfl, fun h => absurd h (by simp)⟩
    rename_i hsame
    split
    · rw [Option.pure_def, Option.bind_some, hover _ (.inr rfl)]
      refine ⟨_, rfl, ?_⟩
      split
      · exact fun h => absurd h (by simp)
      · exact ⟨hmem, hacc⟩
    rename_i hbase
    have hnp' : (slotAt kvm.slot old).npages = mem.npages := (not_not.1 (not_or.1 hsame).1).symm
    have hbase' : (slotAt kvm.slot old).base_gfn = mem.base_gfn := (not_not.1 hbase).symm
    split
    · exact ⟨_, rfl, hmem, hsz, hacc, hid, hnp', hbase'⟩
    · rename_i hfl
      have hfl' : (slotAt kvm.slot old).flags = mem.flags := (not_not.1 hfl).symm
      refine ⟨_, rfl, fun _ => ⟨hsz, old, hmem, hid, ?_⟩⟩
      rw [KvmMemorySlot.region, KvmUserspaceMemoryRegion.region, hnp', hbase', hfl']

/-! ## The new slot: allocation and freeing -/

/-- What the pool promises about its answers to one call: addresses that are aligned and not in
use, all different. -/
structure PoolAnswers.Fresh (ans : PoolAnswers) (kvm : Kvm) : Prop where
  new : ans.new ≠ 0 → NodePtr ans.new ∧ kvm.slot ans.new = none
  invalid : ans.invalid_slot ≠ 0 → NodePtr ans.invalid_slot ∧ kvm.slot ans.invalid_slot = none
    ∧ ans.invalid_slot ≠ ans.new
  bitmap : ans.dirty_bitmap ≠ 0 → kvm.pool ans.dirty_bitmap = none
  rmap : ∀ i, ans.rmap i ≠ 0 → kvm.pool (ans.rmap i) = none ∧ ans.rmap i ≠ ans.dirty_bitmap
  lpage : ∀ i, ans.lpage_info i ≠ 0 →
    kvm.pool (ans.lpage_info i) = none ∧ ans.lpage_info i ≠ ans.dirty_bitmap
  rmapInj : ∀ i j, ans.rmap i ≠ 0 → ans.rmap i = ans.rmap j → i = j
  lpageInj : ∀ i j, ans.lpage_info i ≠ 0 → ans.lpage_info i = ans.lpage_info j → i = j
  rmapLpage : ∀ i j, ans.rmap i ≠ 0 → ans.rmap i ≠ ans.lpage_info j

/-- An address that holds no slot is in no set. -/
theorem Consistent.not_mem {kvm : Kvm} {l : List Ptr} {R : ℕ → Option Region}
    (h : Consistent kvm l R) {p : Ptr}
    (hp : kvm.slot p = none) : p ∉ l := by
  intro hm
  have := h.disjoint.slots p hm
  rw [hp] at this
  cases this

section cells

variable {kvm : Kvm} {l : List Ptr} {R : ℕ → Option Region} {p : Ptr} {rb : Bool → Option RbNode}
  {hl : Bool → Option HlistNode} {kvm' : Kvm}

/-- Writing the cells and the fields of a block outside the sets keeps the invariant. -/
theorem Consistent.setNodes (h : Consistent kvm l R) (hp : p ∉ l)
    (hm : kvm'.memslots = kvm.setNodes p rb hl) (hs : ∀ q, q ≠ p → kvm'.slot q = kvm.slot q)
    (hpages : kvm'.nr_memslot_pages = kvm.nr_memslot_pages) (hpool : kvm'.pool = kvm.pool) :
    Consistent kvm' l R := by
  have hne : ∀ q ∈ l, q ≠ p := fun q hq e => hp (e ▸ hq)
  refine h.congr ?_ ?_ ?_ ?_ ?_ hpages ?_
  · intro idx
    rw [hm]
    rfl
  · intro idx q hq
    simp [hm, Kvm.setNodes, Function.update_of_ne (hne q hq)]
  · intro idx
    rw [hm]
    rfl
  · intro idx q hq
    simp [hm, Kvm.setNodes, Function.update_of_ne (hne q hq)]
  · intro q hq
    rw [hs q (hne q hq)]
  · intro b hb
    rw [hpool]
    exact hb

end cells

/-- The fields `__kvm_set_memory_region` writes into the new slot. -/
def newFields (raw : RawSlot) (mem : KvmUserspaceMemoryRegion) : KvmMemorySlot :=
  { raw.slot with
    as_id := mem.as_id, id := mem.id, base_gfn := mem.base_gfn, npages := mem.npages,
    flags := mem.flags }

/-- After the allocation of the new slot and the writes to its fields. -/
theorem alloc_new_spec {kvm : Kvm} {l : List Ptr} {R : ℕ → Option Region} {ans : PoolAnswers}
    (mem : KvmUserspaceMemoryRegion) (h : Consistent kvm l R) (hf : ans.Fresh kvm)
    (hnew : ans.new ≠ 0) :
    ∃ k, kvm_init_new_slot (kvm.allocSlot ans.new ans.new_raw) ans.new mem = some k
      ∧ Consistent k l R ∧ FreshSlot k l ans.new
      ∧ k.slot = Function.update kvm.slot ans.new (some (newFields ans.new_raw mem))
      ∧ k.pool = kvm.pool ∧ k.nr_memslot_pages = kvm.nr_memslot_pages
      ∧ k.slots_arch_lock = kvm.slots_arch_lock := by
  obtain ⟨hptr, hnone⟩ := hf.new hnew
  have hmem : ans.new ∉ l := h.not_mem hnone
  have hslot : Function.update (Function.update kvm.slot ans.new (some ans.new_raw.slot)) ans.new
      (some (newFields ans.new_raw mem))
      = Function.update kvm.slot ans.new (some (newFields ans.new_raw mem)) :=
    Function.update_idem ..
  refine ⟨(kvm.allocSlot ans.new ans.new_raw).setSlot ans.new (newFields ans.new_raw mem), ?_, ?_,
    ⟨hmem, hptr, ?_, ?_, ?_⟩, hslot, rfl, rfl, rfl⟩
  · simp only [kvm_init_new_slot, Kvm.allocSlot, Function.update_self, Option.bind_eq_bind,
      Option.bind_some]
    rfl
  · refine h.setNodes hmem rfl ?_ rfl rfl
    intro q hq
    simp [Kvm.setSlot, Kvm.allocSlot, Function.update_of_ne hq]
  · simp [Kvm.setSlot]
  · intro idx
    simp [Kvm.setSlot, Kvm.allocSlot, Kvm.setNodes]
  · intro idx
    simp [Kvm.setSlot, Kvm.allocSlot, Kvm.setNodes]

/-- Freeing a slot that is in no set. -/
theorem free_slot_spec {kvm : Kvm} {l : List Ptr} {R : ℕ → Option Region} {p : Ptr}
    (h : Consistent kvm l R) (hp : p ∉ l)
    (hslot : (kvm.slot p).isSome) : ∃ k, kvm.freeSlot p = some k ∧ Consistent k l R
      ∧ k.slot = Function.update kvm.slot p none := by
  obtain ⟨m, hm⟩ := Option.isSome_iff_exists.1 hslot
  refine ⟨_, by simp only [Kvm.freeSlot, hm, Option.bind_eq_bind, Option.bind_some]; rfl, ?_, rfl⟩
  refine h.setNodes hp rfl ?_ rfl rfl
  intro q hq
  simp [Function.update_of_ne hq]

/-- The invariant does not depend on the lock. -/
theorem Consistent.lock {kvm : Kvm} {l : List Ptr} {R : ℕ → Option Region}
    (h : Consistent kvm l R) (n : ℕ) :
    Consistent { kvm with slots_arch_lock := n } l R :=
  h.congr (fun _ => rfl) (fun _ _ _ => rfl) (fun _ => rfl) (fun _ _ _ => rfl) (fun _ _ => rfl) rfl
    (fun _ hb => hb)

theorem Consistent.prepared {kvm kvm' : Kvm} {l : List Ptr} {R : ℕ → Option Region} {new : Ptr}
    (h : Consistent kvm l R)
    (hnew : new ∉ l) (hp : Prepared new kvm kvm') : Consistent kvm' l R := by
  refine h.congr ?_ ?_ ?_ ?_ ?_ hp.pages hp.pool
  · intro idx; rw [hp.memslots]
  · intro idx q _; rw [hp.memslots]
  · intro idx; rw [hp.memslots]
  · intro idx q _; rw [hp.memslots]
  · intro q hq
    exact hp.other q (fun e => hnew (e ▸ hq))

theorem FreshSlot.prepared {kvm kvm' : Kvm} {l : List Ptr} {new : ℕ} (h : FreshSlot kvm l new)
    (hp : Prepared new kvm kvm') : FreshSlot kvm' l new := by
  refine ⟨h.notMem, h.ptr, ?_, ?_, ?_⟩
  · have := congrArg Option.isSome hp.new
    simp only [Option.isSome_map] at this
    rw [this]
    exact h.slot
  · intro idx
    rw [hp.memslots]
    exact h.rb idx
  · intro idx
    rw [hp.memslots]
    exact h.hl idx

/-! ## Lists of slots after a change -/

/-- In a sorted list without the key, the smaller and the larger ones are all there is. -/
theorem filter_append_filter {slot : Ptr → Option KvmMemorySlot} {l : List Ptr} {k : ℕ}
    (hs : l.Pairwise (fun p q => (slotAt slot p).base_gfn < (slotAt slot q).base_gfn))
    (hne : ∀ q ∈ l, (slotAt slot q).base_gfn ≠ k) :
    l.filter (fun q => decide ((slotAt slot q).base_gfn < k))
      ++ l.filter (fun q => decide (k < (slotAt slot q).base_gfn)) = l := by
  induction l with
  | nil => rfl
  | cons a l ih =>
    rw [List.pairwise_cons] at hs
    by_cases ha : (slotAt slot a).base_gfn < k
    · have ha' : ¬ k < (slotAt slot a).base_gfn := by omega
      have hrec := ih hs.2 (fun q hq => hne q (by simp [hq]))
      simp only [List.filter_cons, ha, ha', decide_true, decide_false, if_true, Bool.false_eq_true,
        if_false, List.cons_append, hrec]
    · have ha' : k < (slotAt slot a).base_gfn := by
        have := hne a (by simp)
        omega
      have hall : ∀ q ∈ a :: l, k < (slotAt slot q).base_gfn := by
        intro q hq
        rcases List.mem_cons.1 hq with rfl | hq
        · exact ha'
        · exact ha'.trans (hs.1 q hq)
      rw [List.filter_eq_nil_iff.2, List.filter_eq_self.2, List.nil_append]
      · intro q hq
        exact decide_eq_true (hall q hq)
      · intro q hq
        have := hall q hq
        simp only [decide_eq_true_eq]
        omega

theorem insertSlot_perm {slot : Ptr → Option KvmMemorySlot} {l : List Ptr} {p : Ptr}
    (hs : l.Pairwise (fun p q => (slotAt slot p).base_gfn < (slotAt slot q).base_gfn))
    (hne : ∀ q ∈ l, (slotAt slot q).base_gfn ≠ (slotAt slot p).base_gfn) :
    (insertSlot slot p l).Perm (p :: l) := by
  have h := filter_append_filter hs hne
  rw [insertSlot]
  refine List.perm_middle.trans ?_
  rw [h]

/-- A slot that meets none of the others can be added to disjoint slots. -/
theorem DisjointSlots.insert {slot : Ptr → Option KvmMemorySlot} {l : List Ptr} {p : Ptr}
    (h : DisjointSlots slot l)
    (hs : l.Pairwise (fun p q => (slotAt slot p).base_gfn < (slotAt slot q).base_gfn))
    (hp : (slot p).isSome) (hpos : 0 < (slotAt slot p).npages) (hwrap : slotEnd slot p < 2 ^ 64)
    (hfree : ∀ q ∈ l, slotEnd slot q ≤ (slotAt slot p).base_gfn
      ∨ slotEnd slot p ≤ (slotAt slot q).base_gfn) :
    DisjointSlots slot (insertSlot slot p l) := by
  have hend : ∀ q, (slotAt slot q).base_gfn ≤ slotEnd slot q := fun q => Nat.le_add_right _ _
  have hne : ∀ q ∈ l, (slotAt slot q).base_gfn ≠ (slotAt slot p).base_gfn := by
    intro q hq he
    have h1 := h.pos q hq
    have h2 : slotEnd slot q = (slotAt slot q).base_gfn + (slotAt slot q).npages := rfl
    have h3 : slotEnd slot p = (slotAt slot p).base_gfn + (slotAt slot p).npages := rfl
    rcases hfree q hq with hq' | hq' <;> omega
  have hmem : ∀ q, q ∈ insertSlot slot p l ↔ q = p ∨ q ∈ l := fun q => mem_insertSlot hne
  refine ⟨?_, ?_, ?_, ?_⟩
  · intro q hq
    rcases (hmem q).1 hq with rfl | hq
    · exact hp
    · exact h.slots q hq
  · intro q hq
    rcases (hmem q).1 hq with rfl | hq
    · exact hpos
    · exact h.pos q hq
  · intro q hq
    rcases (hmem q).1 hq with rfl | hq
    · exact hwrap
    · exact h.nowrap q hq
  · have hd := h.disjoint
    rw [← filter_append_filter hs hne, List.pairwise_append] at hd
    rw [insertSlot, List.pairwise_append, List.pairwise_cons]
    refine ⟨hd.1, ⟨?_, hd.2.1⟩, ?_⟩
    · intro q hq
      rw [List.mem_filter, decide_eq_true_eq] at hq
      have := hend q
      rcases hfree q hq.1 with hq' | hq'
      · omega
      · exact hq'
    · intro a ha q hq
      rcases List.mem_cons.1 hq with rfl | hq
      · rw [List.mem_filter, decide_eq_true_eq] at ha
        have := hend q
        rcases hfree a ha.1 with ha' | ha'
        · exact ha'
        · omega
      · exact hd.2.2 a ha q hq

end Svmx.MemSlot
