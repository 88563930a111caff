/-
The steps of `kvm_set_memslot` around the edit of the sets: allocating metadata and the dirty
bitmap of a new slot, and committing.

None of them touches the two sets. `ArchOnly` says what allocating metadata leaves alone: all of
the VM but the arch part of slots and new pool blocks. The error path of
`kvm_alloc_memslot_metadata` frees the pointers of all levels, the missing one included, so a
failed metadata allocation does not return (`kvm_alloc_memslot_metadata_spec`).
-/
import Svmx.MemslotSet

set_option autoImplicit false

namespace Svmx.MemSlot

open RbTree Hlist NtStatus KvmMrChange

/-! ## What the preparation leaves alone -/

/-- A slot without its arch part. -/
def KvmMemorySlot.noArch (m : KvmMemorySlot) : KvmMemorySlot := { m with arch := .zero }

/-- `kvm'` is `kvm` up to the arch parts of slots and more pool blocks. -/
structure ArchOnly (kvm kvm' : Kvm) : Prop where
  memslots : kvm'.memslots = kvm.memslots
  active : kvm'.active = kvm.active
  pages : kvm'.nr_memslot_pages = kvm.nr_memslot_pages
  lock : kvm'.slots_arch_lock = kvm.slots_arch_lock
  slot : ∀ q, (kvm'.slot q).map (·.noArch) = (kvm.slot q).map (·.noArch)
  pool : ∀ b, (kvm.pool b).isSome → (kvm'.pool b).isSome

theorem ArchOnly.refl (kvm : Kvm) : ArchOnly kvm kvm :=
  ⟨rfl, rfl, rfl, rfl, fun _ => rfl, fun _ h => h⟩

theorem ArchOnly.trans {a b c : Kvm} (h : ArchOnly a b) (h' : ArchOnly b c) : ArchOnly a c where
  memslots := h'.memslots.trans h.memslots
  active := h'.active.trans h.active
  pages := h'.pages.trans h.pages
  lock := h'.lock.trans h.lock
  slot q := (h'.slot q).trans (h.slot q)
  pool b hb := h'.pool b (h.pool b hb)

theorem ArchOnly.isSome {a b : Kvm} (h : ArchOnly a b) (q : Ptr) :
    (b.slot q).isSome = (a.slot q).isSome := by
  have := congrArg Option.isSome (h.slot q)
  simpa using this

theorem setArch_spec {kvm : Kvm} {p : Ptr} {m : KvmMemorySlot} (h : kvm.slot p = some m)
    (f : KvmArchMemorySlot → KvmArchMemorySlot) :
    ∃ kvm', kvm.setArch p f = some kvm' ∧ ArchOnly kvm kvm'
      ∧ kvm'.slot p = some { m with arch := f m.arch } := by
  refine ⟨kvm.setSlot p { m with arch := f m.arch }, ?_, ⟨rfl, rfl, rfl, rfl, ?_, fun _ h => h⟩, ?_⟩
  · simp [Kvm.setArch, h]
  · intro q
    by_cases hq : q = p
    · rw [hq, h]
      simp [Kvm.setSlot, KvmMemorySlot.noArch]
    · simp [Kvm.setSlot, Function.update_of_ne hq]
  · simp [Kvm.setSlot]

theorem allocBlock_archOnly (kvm : Kvm) (p : Ptr) (b : PoolBlock) :
    ArchOnly kvm (kvm.allocBlock p b) := by
  rw [Kvm.allocBlock]
  split
  · exact .refl kvm
  · refine ⟨rfl, rfl, rfl, rfl, fun _ => rfl, ?_⟩
    intro c hc
    by_cases hcp : c = p
    · simp [hcp]
    · simpa [Function.update_of_ne hcp] using hc

theorem allocBlock_slot (kvm : Kvm) (p : Ptr) (b : PoolBlock) :
    (kvm.allocBlock p b).slot = kvm.slot := by
  rw [Kvm.allocBlock]
  split <;> rfl

theorem freeBlock_slot {kvm kvm' : Kvm} {p : Ptr} (h : kvm.freeBlock p = some kvm') :
    kvm'.slot = kvm.slot := by
  rw [Kvm.freeBlock] at h
  split at h
  · cases h
  · cases hb : kvm.pool p with
    | none => simp [hb] at h
    | some b =>
      simp only [hb, Option.bind_eq_bind, Option.bind_some, Option.pure_def,
        Option.some.injEq] at h
      rw [← h]

/-! ## Metadata -/

/-- The loops over the page sizes reach every index. -/
theorem mem_rmap_indices : ∀ i : Fin 3, i ∈ ([0, 1, 2] : List (Fin 3)) := by decide

theorem mem_lpage_indices : ∀ i : Fin 2, i ∈ ([0, 1] : List (Fin 2)) := by decide

/-- Freeing the reverse maps stops at a NULL pointer. -/
theorem memslot_rmap_free_loop_null {p : Ptr} {i : Fin 3} :
    ∀ {is : List (Fin 3)} {kvm : Kvm} {m : KvmMemorySlot}, kvm.slot p = some m → i ∈ is →
      m.arch.rmap i = 0 → memslot_rmap_free_loop kvm p is = none := by
  intro is
  induction is with
  | nil => intro kvm m _ hi; cases hi
  | cons j is ih =>
    intro kvm m hm hi h0
    rw [memslot_rmap_free_loop, hm]
    simp only [Option.bind_eq_bind, Option.bind_some]
    by_cases hj : m.arch.rmap j = 0
    · simp [Kvm.freeBlock, hj]
    · have hi' : i ∈ is := by
        rcases List.mem_cons.1 hi with rfl | hi
        · exact absurd h0 hj
        · exact hi
      have hij : i ≠ j := by
        rintro rfl
        exact hj h0
      cases hfree : kvm.freeBlock (m.arch.rmap j) with
      | none => rfl
      | some k =>
        have hk : k.slot p = some m := by rw [freeBlock_slot hfree, hm]
        obtain ⟨k', ek, -, hk'⟩ := setArch_spec hk (·.setRmap j 0)
        simp only [Option.bind_some, ek]
        refine ih hk' hi' ?_
        simp [KvmArchMemorySlot.setRmap, Function.update_of_ne hij, h0]

/-- Freeing the reverse maps does not touch the large-page pointers. -/
theorem memslot_rmap_free_loop_lpage {p : Ptr} :
    ∀ {is : List (Fin 3)} {kvm kvm' : Kvm} {m : KvmMemorySlot}, kvm.slot p = some m →
      memslot_rmap_free_loop kvm p is = some kvm' →
      ∃ m', kvm'.slot p = some m' ∧ m'.arch.lpage_info = m.arch.lpage_info := by
  intro is
  induction is with
  | nil =>
    intro kvm kvm' m hm h
    obtain rfl : kvm = kvm' := by simpa [memslot_rmap_free_loop] using h
    exact ⟨m, hm, rfl⟩
  | cons j is ih =>
    intro kvm kvm' m hm h
    rw [memslot_rmap_free_loop, hm] at h
    simp only [Option.bind_eq_bind, Option.bind_some] at h
    cases hfree : kvm.freeBlock (m.arch.rmap j) with
    | none => simp [hfree] at h
    | some k =>
      have hk : k.slot p = some m := by rw [freeBlock_slot hfree, hm]
      obtain ⟨k', ek, -, hk'⟩ := setArch_spec hk (·.setRmap j 0)
      simp only [hfree, Option.bind_some, ek] at h
      obtain ⟨m', hm', he⟩ := ih hk' h
      exact ⟨m', hm', he⟩

/-- Freeing the large-page arrays stops at a NULL pointer. -/
theorem free_lpage_loop_null {p : Ptr} {i : Fin 2} :
    ∀ {is : List (Fin 2)} {kvm : Kvm} {m : KvmMemorySlot}, kvm.slot p = some m → i ∈ is →
      m.arch.lpage_info i = 0 → free_lpage_loop kvm p is = none := by
  intro is
  induction is with
  | nil => intro kvm m _ hi; cases hi
  | cons j is ih =>
    intro kvm m hm hi h0
    rw [free_lpage_loop, hm]
    simp only [Option.bind_eq_bind, Option.bind_some]
    by_cases hj : m.arch.lpage_info j = 0
    · simp [Kvm.freeBlock, hj]
    · have hi' : i ∈ is := by
        rcases List.mem_cons.1 hi with rfl | hi
        · exact absurd h0 hj
        · exact hi
      have hij : i ≠ j := by
        rintro rfl
        exact hj h0
      cases hfree : kvm.freeBlock (m.arch.lpage_info j) with
      | none => rfl
      | some k =>
        have hk : k.slot p = some m := by rw [freeBlock_slot hfree, hm]
        obtain ⟨k', ek, -, hk'⟩ := setArch_spec hk (·.setLpage j 0)
        simp only [Option.bind_some, ek]
        refine ih hk' hi' ?_
        simp [KvmArchMemorySlot.setLpage, Function.update_of_ne hij, h0]

/-- The label `out_free` does not return while a large-page pointer is NULL. -/
theorem out_free_null {kvm : Kvm} {p : Ptr} {m : KvmMemorySlot} (hm : kvm.slot p = some m)
    {i : Fin 2} (hi : m.arch.lpage_info i = 0) : kvm_alloc_memslot_out_free kvm p = none := by
  rw [kvm_alloc_memslot_out_free]
  cases hfree : memslot_rmap_free kvm p with
  | none => rfl
  | some k =>
    obtain ⟨m', hm', he⟩ := memslot_rmap_free_loop_lpage hm hfree
    simp only [Option.bind_eq_bind, Option.bind_some]
    rw [free_lpage_loop_null hm' (mem_lpage_indices i) (by rw [he, hi])]
    rfl

/-- The loop of `memslot_rmap_alloc` over indices whose pointer is still NULL. -/
theorem memslot_rmap_alloc_loop_spec (ans : PoolAnswers) (p : Ptr) (npages : ℕ) :
    ∀ (is : List (Fin 3)) {kvm : Kvm} {m : KvmMemorySlot}, is.Nodup → kvm.slot p = some m →
      (∀ i ∈ is, m.arch.rmap i = 0) →
      if ∀ i ∈ is, ans.rmap i ≠ 0 then
        ∃ kvm' m', memslot_rmap_alloc_loop ans p npages kvm is = some (STATUS_SUCCESS, kvm')
          ∧ ArchOnly kvm kvm' ∧ kvm'.slot p = some m'
          ∧ m'.arch.lpage_info = m.arch.lpage_info
      else memslot_rmap_alloc_loop ans p npages kvm is = none := by
  intro is
  induction is with
  | nil =>
    intro kvm m _ hm _
    rw [if_pos (by simp)]
    exact ⟨kvm, m, rfl, .refl kvm, hm, rfl⟩
  | cons i is ih =>
    intro kvm m hnd hm h0
    have hnd' := List.nodup_cons.1 hnd
    set k := kvm.allocBlock (ans.rmap i) (.rmap (kvm_mmu_slot_lpages m npages (i + 1))) with hk
    have hkm : k.slot p = some m := by rw [hk, allocBlock_slot, hm]
    obtain ⟨k', ek, hak, hk'⟩ := setArch_spec hkm (·.setRmap i (ans.rmap i))
    have hstep : memslot_rmap_alloc_loop ans p npages kvm (i :: is)
        = if ans.rmap i = 0 then
            (memslot_rmap_free k' p).bind (fun kvm => some (STATUS_NO_MEMORY, kvm))
          else memslot_rmap_alloc_loop ans p npages k' is := by
      rw [memslot_rmap_alloc_loop, hm]
      simp only [Option.bind_eq_bind, Option.bind_some, ne_eq, h0 i (by simp), not_true_eq_false,
        if_false, ← hk, ek]
      rfl
    rw [hstep]
    by_cases hi : ans.rmap i = 0
    · -- the error path frees all three arrays, also the one whose pointer is NULL
      rw [if_neg (fun h => h i (by simp) hi), if_pos hi, memslot_rmap_free,
        memslot_rmap_free_loop_null hk' (mem_rmap_indices i)
          (by simp [KvmArchMemorySlot.setRmap, hi])]
      rfl
    · rw [if_neg hi]
      have h0' : ∀ j ∈ is, (m.arch.setRmap i (ans.rmap i)).rmap j = 0 := by
        intro j hj
        have hji : j ≠ i := fun e => hnd'.1 (e ▸ hj)
        simp [KvmArchMemorySlot.setRmap, Function.update_of_ne hji, h0 j (by simp [hj])]
      have hrec := ih hnd'.2 hk' h0'
      have hall : (∀ j ∈ i :: is, ans.rmap j ≠ 0) ↔ ∀ j ∈ is, ans.rmap j ≠ 0 := by
        simp [hi]
      simp only [hall]
      split at hrec
      · rename_i hok
        rw [if_pos hok]
        obtain ⟨kvm', m', e, ha, hs, hl⟩ := hrec
        exact ⟨kvm', m', e, ((allocBlock_archOnly _ _ _).trans hak).trans ha, hs, hl⟩
      · rename_i hok
        rw [if_neg hok]
        exact hrec

/-- The loop of `kvm_alloc_memslot_metadata` over indices whose pointer is still NULL. -/
theorem alloc_lpage_loop_spec (ans : PoolAnswers) (p : Ptr) (npages : ℕ) :
    ∀ (is : List (Fin 2)) {kvm : Kvm} {m : KvmMemorySlot}, is.Nodup → kvm.slot p = some m →
      (∀ i ∈ is, m.arch.lpage_info i = 0) →
      if ∀ i ∈ is, ans.lpage_info i ≠ 0 then
        ∃ kvm', alloc_lpage_loop ans p npages kvm is = some (STATUS_SUCCESS, kvm')
          ∧ ArchOnly kvm kvm'
      else alloc_lpage_loop ans p npages kvm is = none := by
  intro is
  induction is with
  | nil =>
    intro kvm m _ _ _
    rw [if_pos (by simp)]
    exact ⟨kvm, rfl, .refl kvm⟩
  | cons i is ih =>
    intro kvm m hnd hm h0
    have hnd' := List.nodup_cons.1 hnd
    rw [alloc_lpage_loop, hm]
    simp only [Option.bind_eq_bind, Option.bind_some]
    by_cases hi : ans.lpage_info i = 0
    · rw [if_neg (fun h => h i (by simp) hi), if_pos hi]
      exact out_free_null hm (h0 i (by simp))
    · rw [if_neg hi]
      set k := kvm.allocBlock (ans.lpage_info i)
        (.lpage_info (kvm_mmu_slot_lpages m npages (i.val + 2))
          (mark_disallow_lpage (ans.lpage_raw i) m.base_gfn npages (i.val + 2)
            (kvm_mmu_slot_lpages m npages (i.val + 2)))) with hk
      have hkm : k.slot p = some m := by rw [hk, allocBlock_slot, hm]
      obtain ⟨k', ek, hak, hk'⟩ := setArch_spec hkm (·.setLpage i (ans.lpage_info i))
      have h0' : ∀ j ∈ is, (m.arch.setLpage i (ans.lpage_info i)).lpage_info j = 0 := by
        intro j hj
        have hji : j ≠ i := fun e => hnd'.1 (e ▸ hj)
        simp [KvmArchMemorySlot.setLpage, Function.update_of_ne hji, h0 j (by simp [hj])]
      have hrec := ih hnd'.2 hk' h0'
      have hall : (∀ j ∈ i :: is, ans.lpage_info j ≠ 0) ↔ ∀ j ∈ is, ans.lpage_info j ≠ 0 := by
        simp [hi]
      simp only [hall, ek, Option.bind_some]
      split at hrec
      · rename_i hok
        rw [if_pos hok]
        obtain ⟨kvm', e, ha⟩ := hrec
        exact ⟨kvm', e, ((allocBlock_archOnly _ _ _).trans hak).trans ha⟩
      · rename_i hok
        rw [if_neg hok]
        exact hrec

/-- The pool gives every metadata block `kvm_alloc_memslot_metadata` asks for. -/
def PoolAnswers.metadataOk (host : Host) (ans : PoolAnswers) : Prop :=
  (kvm_memslots_have_rmaps host = true → ∀ i, ans.rmap i ≠ 0) ∧ ∀ i, ans.lpage_info i ≠ 0

/-- **Metadata.** `kvm_alloc_memslot_metadata` succeeds if the pool gives every block, and then
only writes arch data; otherwise its error path frees a NULL pointer and does not return. -/
theorem kvm_alloc_memslot_metadata_spec {host : Host} {ans : PoolAnswers} {kvm : Kvm} {p : Ptr}
    (hp : (kvm.slot p).isSome) :
    (ans.metadataOk host → ∃ kvm', kvm_alloc_memslot_metadata host ans kvm p
        = some (STATUS_SUCCESS, kvm') ∧ ArchOnly kvm kvm')
      ∧ (¬ ans.metadataOk host → kvm_alloc_memslot_metadata host ans kvm p = none) := by
  obtain ⟨m, hm⟩ := Option.isSome_iff_exists.1 hp
  obtain ⟨k, ek, hak, hk⟩ := setArch_spec hm (fun _ => .zero)
  have hrmap : if kvm_memslots_have_rmaps host = true → ∀ i, ans.rmap i ≠ 0 then
      ∃ k' m', memslot_rmap_alloc_if host ans k p m.npages = some (STATUS_SUCCESS, k')
        ∧ ArchOnly k k' ∧ k'.slot p = some m' ∧ m'.arch.lpage_info = fun _ => 0
      else memslot_rmap_alloc_if host ans k p m.npages = none := by
    by_cases hr : kvm_memslots_have_rmaps host = true
    · have hloop := memslot_rmap_alloc_loop_spec ans p m.npages [0, 1, 2] (by decide) hk (fun _ _ => rfl)
      have hall : (∀ i ∈ ([0, 1, 2] : List (Fin 3)), ans.rmap i ≠ 0) ↔ ∀ i, ans.rmap i ≠ 0 := by
        constructor
        · intro h i
          exact h i (mem_rmap_indices i)
        · intro h i _
          exact h i
      simp only [hr, forall_const, memslot_rmap_alloc_if, if_true, memslot_rmap_alloc]
      simp only [hall] at hloop
      exact hloop
    · rw [if_pos (fun h => absurd h hr), memslot_rmap_alloc_if, if_neg hr]
      exact ⟨k, _, rfl, .refl k, hk, rfl⟩
  have hstep : kvm_alloc_memslot_metadata host ans kvm p
      = (memslot_rmap_alloc_if host ans k p m.npages).bind (fun rk =>
          if rk.1 ≠ STATUS_SUCCESS then some rk
          else alloc_lpage_loop ans p m.npages rk.2 [0, 1]) := by
    rw [kvm_alloc_memslot_metadata, hm]
    simp only [Option.bind_eq_bind, Option.bind_some, ek]
    rfl
  rw [hstep]
  have hall2 : (∀ i ∈ ([0, 1] : List (Fin 2)), ans.lpage_info i ≠ 0)
      ↔ ∀ i, ans.lpage_info i ≠ 0 := by
    constructor
    · intro h i
      exact h i (mem_lpage_indices i)
    · intro h i _
      exact h i
  by_cases hr : kvm_memslots_have_rmaps host = true → ∀ i, ans.rmap i ≠ 0
  · rw [if_pos hr] at hrmap
    obtain ⟨k', m', e', ha', hk', hl'⟩ := hrmap
    have hlp := alloc_lpage_loop_spec ans p m.npages [0, 1] (by decide) hk' (fun i _ => by rw [hl'])
    simp only [hall2] at hlp
    rw [e', Option.bind_some]
    constructor
    · intro hok
      rw [if_pos hok.2] at hlp
      obtain ⟨kvm', e, ha⟩ := hlp
      exact ⟨kvm', e, (hak.trans ha').trans ha⟩
    · intro hbad
      rw [if_neg (fun h => hbad ⟨hr, h⟩)] at hlp
      exact hlp
  · rw [if_neg hr] at hrmap
    refine ⟨fun hok => absurd hok.1 hr, fun _ => ?_⟩
    rw [hrmap]
    rfl

/-! ## The dirty bitmap and the whole preparation -/

/-- `kvm'` is `kvm` up to arch parts, the dirty bitmap of the slot `new`, and more pool blocks. -/
structure Prepared (new : Ptr) (kvm kvm' : Kvm) : Prop where
  memslots : kvm'.memslots = kvm.memslots
  active : kvm'.active = kvm.active
  pages : kvm'.nr_memslot_pages = kvm.nr_memslot_pages
  lock : kvm'.slots_arch_lock = kvm.slots_arch_lock
  other : ∀ q, q ≠ new → (kvm'.slot q).map (·.noArch) = (kvm.slot q).map (·.noArch)
  new : (kvm'.slot new).map (fun m => { m.noArch with dirty_bitmap := 0 })
    = (kvm.slot new).map (fun m => { m.noArch with dirty_bitmap := 0 })
  pool : ∀ b, (kvm.pool b).isSome → (kvm'.pool b).isSome

theorem Prepared.trans_archOnly {new : Ptr} {a b c : Kvm} (h : Prepared new a b)
    (h' : ArchOnly b c) : Prepared new a c where
  memslots := h'.memslots.trans h.memslots
  active := h'.active.trans h.active
  pages := h'.pages.trans h.pages
  lock := h'.lock.trans h.lock
  other q hq := (h'.slot q).trans (h.other q hq)
  new := by
    have hs := congrArg (Option.map (fun m : KvmMemorySlot => { m with dirty_bitmap := 0 }))
      (h'.slot new)
    rw [Option.map_map, Option.map_map] at hs
    exact hs.trans h.new
  pool d hd := h'.pool d (h.pool d hd)

/-- Where the dirty bitmap of a prepared slot comes from. -/
def BitmapFrom (ans : PoolAnswers) (ob b : Ptr) : Prop :=
  b = 0 ∨ (b = ob ∧ ob ≠ 0) ∨ (b = ans.dirty_bitmap ∧ b ≠ 0 ∧ ob = 0)

/-- The bitmap of `old` does not depend on the other slots. -/
theorem old_dirty_bitmap_update {kvm k : Kvm} {old new : Ptr} {n : Option KvmMemorySlot}
    (hslot : k.slot = Function.update kvm.slot new n) (hne : old ≠ new) :
    old_dirty_bitmap k old = old_dirty_bitmap kvm old := by
  rw [old_dirty_bitmap, old_dirty_bitmap, hslot, Function.update_of_ne hne]

/-- The state after the dirty bitmap of `new` is set: no bitmap, the one of `old`, or a new
block. -/
theorem kvm_prepare_dirty_bitmap_spec (ans : PoolAnswers) {kvm : Kvm} {old new ob : Ptr}
    {n : KvmMemorySlot} {change : KvmMrChange} (hchange : change ≠ KVM_MR_DELETE)
    (hn : kvm.slot new = some n) (hob : old_dirty_bitmap kvm old = some ob)
    (hlive : ob ≠ 0 → (kvm.pool ob).isSome) :
    ∃ r k b, kvm_prepare_dirty_bitmap ans kvm old new change = some (r, k)
      ∧ Prepared new kvm k ∧ k.slot = Function.update kvm.slot new
          (some { n with dirty_bitmap := b })
      ∧ BitmapFrom ans ob b ∧ (b ≠ 0 → (k.pool b).isSome)
      ∧ (r = STATUS_SUCCESS → (b = 0 ↔ n.flags &&& KVM_MEM_LOG_DIRTY_PAGES = 0)) := by
  have hset : ∀ (k : Kvm) (b : Ptr), k.slot = kvm.slot →
      k.setDirtyBitmap new b = some (k.setSlot new { n with dirty_bitmap := b }) := by
    intro k b hk
    simp [Kvm.setDirtyBitmap, hk, hn]
  have hprep : ∀ (k : Kvm) (b : Ptr), ArchOnly kvm k → k.slot = kvm.slot →
      Prepared new kvm (k.setSlot new { n with dirty_bitmap := b }) := by
    intro k b ha hk
    refine ⟨ha.memslots, ha.active, ha.pages, ha.lock, ?_, ?_, ha.pool⟩
    · intro q hq
      simp [Kvm.setSlot, Function.update_of_ne hq, hk]
    · simp [Kvm.setSlot, hn, KvmMemorySlot.noArch]
  have hupd : ∀ (k : Kvm) (b : Ptr), k.slot = kvm.slot →
      (k.setSlot new { n with dirty_bitmap := b }).slot
        = Function.update kvm.slot new (some { n with dirty_bitmap := b }) := by
    intro k b hk
    rw [Kvm.setSlot, hk]
  rw [kvm_prepare_dirty_bitmap, if_pos hchange, hn]
  simp only [Option.bind_eq_bind, Option.bind_some]
  -- no logging, the bitmap of `old`, or a new bitmap
  by_cases hflag : n.flags &&& KVM_MEM_LOG_DIRTY_PAGES = 0
  · rw [if_pos hflag, hset kvm 0 rfl]
    exact ⟨STATUS_SUCCESS, _, 0, rfl, hprep kvm 0 (.refl kvm) rfl, hupd kvm 0 rfl, .inl rfl,
      fun h => absurd rfl h, fun _ => iff_of_true rfl hflag⟩
  · rw [if_neg hflag, hob, Option.bind_some]
    by_cases h0 : ob ≠ 0
    · rw [if_pos h0, hset kvm ob rfl]
      exact ⟨STATUS_SUCCESS, _, ob, rfl, hprep kvm ob (.refl kvm) rfl, hupd kvm ob rfl,
        .inr (.inl ⟨rfl, h0⟩), fun _ => hlive h0, fun _ => iff_of_false h0 hflag⟩
    · rw [if_neg h0, kvm_alloc_dirty_bitmap, hn]
      simp only [Option.bind_eq_bind, Option.bind_some]
      set k := kvm.allocBlock ans.dirty_bitmap
        (.dirty_bitmap (2 * kvm_dirty_bitmap_bytes n.npages)) with hk
      have hks : k.slot = kvm.slot := allocBlock_slot _ _ _
      have hka : ArchOnly kvm k := allocBlock_archOnly _ _ _
      rw [hset k ans.dirty_bitmap hks]
      refine ⟨_, _, ans.dirty_bitmap, rfl, hprep k _ hka hks, hupd k _ hks, ?_, ?_, ?_⟩
      · by_cases hb : ans.dirty_bitmap = 0
        · exact .inl hb
        · exact .inr (.inr ⟨rfl, hb, not_not.1 h0⟩)
      · intro hb
        simp [hk, Kvm.allocBlock, Kvm.setSlot, if_neg hb]
      · intro hr
        refine iff_of_false ?_ hflag
        intro hb
        simp [hb] at hr

/-- `kvm_destroy_dirty_bitmap` of a slot with a live bitmap. -/
theorem kvm_destroy_dirty_bitmap_spec {kvm : Kvm} {p : Ptr} {m : KvmMemorySlot}
    (hm : kvm.slot p = some m) (hb : m.dirty_bitmap ≠ 0)
    (hlive : (kvm.pool m.dirty_bitmap).isSome) :
    kvm_destroy_dirty_bitmap kvm p
      = some { kvm with
          pool := Function.update kvm.pool m.dirty_bitmap none
          slot := Function.update kvm.slot p (some { m with dirty_bitmap := 0 }) } := by
  obtain ⟨blk, hblk⟩ := Option.isSome_iff_exists.1 hlive
  simp [kvm_destroy_dirty_bitmap, hm, hb, Kvm.freeBlock, hblk, Kvm.setDirtyBitmap, Kvm.setSlot]

/-- The limit check of `kvm_arch_prepare_memory_region` lets the slot pass. -/
def belowMaxGfn (host : Host) (n : KvmMemorySlot) : Prop :=
  (n.base_gfn + n.npages - 1) % 2 ^ 64 ≤ kvm_mmu_max_gfn host

/-- What a preparation that returns comes to: only the slot `new` is prepared. On success its
bitmap is NULL, the one of `old` or a new block, is live, and is there exactly if the slot logs
dirty pages; and a created or moved slot ends below the limit. -/
def PrepareOutcome (host : Host) (ans : PoolAnswers) (kvm : Kvm) (new ob : Ptr)
    (n : KvmMemorySlot) (change : KvmMrChange) (res : Option (NtStatus × Kvm)) : Prop :=
  ∃ r kvm' m, res = some (r, kvm') ∧ Prepared new kvm kvm' ∧ kvm'.slot new = some m
    ∧ (r = STATUS_SUCCESS → BitmapFrom ans ob m.dirty_bitmap
      ∧ (m.dirty_bitmap ≠ 0 → (kvm'.pool m.dirty_bitmap).isSome)
      ∧ (m.dirty_bitmap = 0 ↔ n.flags &&& KVM_MEM_LOG_DIRTY_PAGES = 0)
      ∧ (change ≠ KVM_MR_FLAGS_ONLY → belowMaxGfn host n))

section prepare

variable {host : Host} {ans : PoolAnswers} {kvm k : Kvm} {old new ob b : Ptr} {n : KvmMemorySlot}
  {change : KvmMrChange}

/-- The tail of the preparation after the arch hook succeeded with writes to arch data only. -/
theorem prepare_outcome_success (old : Ptr) {k' : Kvm} (hprep : Prepared new kvm k)
    (hkn : k.slot new = some { n with dirty_bitmap := b }) (hfrom : BitmapFrom ans ob b)
    (hblive : b ≠ 0 → (k.pool b).isSome)
    (hlog : b = 0 ↔ n.flags &&& KVM_MEM_LOG_DIRTY_PAGES = 0)
    (hmax : change ≠ KVM_MR_FLAGS_ONLY → belowMaxGfn host n) (hk' : ArchOnly k k') :
    PrepareOutcome host ans kvm new ob n change ((kvm_prepare_undo k' old new STATUS_SUCCESS).bind
      (fun kvm => some (STATUS_SUCCESS, kvm))) := by
  have hs := hk'.slot new
  rw [hkn, Option.map_some] at hs
  obtain ⟨m, hm, hmn⟩ := Option.map_eq_some_iff.1 hs
  have hmb : m.dirty_bitmap = b := congrArg KvmMemorySlot.dirty_bitmap hmn
  refine ⟨STATUS_SUCCESS, k', m, by simp [kvm_prepare_undo], hprep.trans_archOnly hk', hm,
    fun _ => ?_⟩
  rw [hmb]
  exact ⟨hfrom, fun hb => hk'.pool b (hblive hb), hlog, hmax⟩

/-- The tail of the preparation after the limit check failed: a bitmap allocated for `new` is
freed again. -/
theorem prepare_outcome_limit (hprep : Prepared new kvm k) (hn : kvm.slot new = some n)
    (hslot : k.slot = Function.update kvm.slot new (some { n with dirty_bitmap := b }))
    (hkob : old_dirty_bitmap k old = some ob) (hfrom : BitmapFrom ans ob b)
    (hblive : b ≠ 0 → (k.pool b).isSome) (hnew : new ≠ 0)
    (hfresh : ans.dirty_bitmap ≠ 0 → kvm.pool ans.dirty_bitmap = none) :
    PrepareOutcome host ans kvm new ob n change
      ((kvm_prepare_undo k old new STATUS_INVALID_PARAMETER).bind
        (fun kvm => some (STATUS_INVALID_PARAMETER, kvm))) := by
  have hkn : k.slot new = some { n with dirty_bitmap := b } := by rw [hslot, Function.update_self]
  have hundo : kvm_prepare_undo k old new STATUS_INVALID_PARAMETER
      = if b ≠ 0 then if ob = 0 then kvm_destroy_dirty_bitmap k new else some k else some k := by
    rw [kvm_prepare_undo, if_pos ⟨by simp, hnew⟩, hkn]
    simp only [Option.bind_eq_bind, Option.bind_some, hkob]
    rfl
  have hkeep : PrepareOutcome host ans kvm new ob n change
      ((some k).bind (fun kvm => some (STATUS_INVALID_PARAMETER, kvm))) :=
    ⟨STATUS_INVALID_PARAMETER, k, _, rfl, hprep, hkn, fun h => absurd h (by simp)⟩
  rw [hundo]
  by_cases hb : b ≠ 0
  · rw [if_pos hb]
    by_cases hob : ob = 0
    · rw [if_pos hob, kvm_destroy_dirty_bitmap_spec hkn hb (hblive hb)]
      -- the block freed here was not allocated before the call
      have hbnone : kvm.pool b = none := by
        rcases hfrom with h0 | ⟨-, h0⟩ | ⟨h1, h0, -⟩
        · exact absurd h0 hb
        · exact absurd hob h0
        · rw [h1] at h0 ⊢
          exact hfresh h0
      refine ⟨STATUS_INVALID_PARAMETER, _, { n with dirty_bitmap := 0 }, rfl, ?_, by simp,
        fun h => absurd h (by simp)⟩
      refine ⟨hprep.memslots, hprep.active, hprep.pages, hprep.lock, ?_, ?_, ?_⟩
      · intro q hq
        simp [Function.update_of_ne hq, hslot]
      · simp [hn, KvmMemorySlot.noArch]
      · intro c hc
        have hcb : c ≠ b := by
          rintro rfl
          rw [hbnone] at hc
          cases hc
        simpa [Function.update_of_ne hcb] using hprep.pool c hc
    · rw [if_neg hob]
      exact hkeep
  · rw [if_neg hb]
    exact hkeep

/-- **Preparation.** For every change but DELETE it only prepares the slot `new`; it does not
return only when it reaches the metadata and the pool fails there. -/
theorem kvm_prepare_memory_region_spec
    (hchange : change ≠ KVM_MR_DELETE) (hn : kvm.slot new = some n)
    (hob : old_dirty_bitmap kvm old = some ob) (hlive : ob ≠ 0 → (kvm.pool ob).isSome)
    (hnew : new ≠ 0) (hne : old ≠ new) (hflags : change = KVM_MR_FLAGS_ONLY → old ≠ 0)
    (hfresh : ans.dirty_bitmap ≠ 0 → kvm.pool ans.dirty_bitmap = none) :
    PrepareOutcome host ans kvm new ob n change
        (kvm_prepare_memory_region host ans kvm old new change)
      ∨ (kvm_prepare_memory_region host ans kvm old new change = none
        ∧ ¬ ans.metadataOk host) := by
  obtain ⟨r, k, b, e, hprep, hslot, hfrom, hblive, hlog⟩ :=
    kvm_prepare_dirty_bitmap_spec ans hchange hn hob hlive
  have hkn : k.slot new = some { n with dirty_bitmap := b } := by rw [hslot, Function.update_self]
  have hkob : old_dirty_bitmap k old = some ob := by
    rw [old_dirty_bitmap_update hslot hne, hob]
  have hsome : (k.slot new).isSome := by rw [hkn]; rfl
  rw [kvm_prepare_memory_region, e]
  simp only [Option.bind_eq_bind, Option.bind_some]
  by_cases hrs : r ≠ STATUS_SUCCESS
  · rw [if_pos hrs]
    exact .inl ⟨r, k, _, rfl, hprep, hkn, fun h => absurd h hrs⟩
  rw [if_neg hrs]
  have hlog' := hlog (not_not.1 hrs)
  -- CREATE and MOVE check the limit and allocate metadata
  have hregion : kvm_arch_prepare_memory_region host ans k old new change
        = (if (n.base_gfn + n.npages - 1) % 2 ^ 64 > kvm_mmu_max_gfn host then
            some (STATUS_INVALID_PARAMETER, k)
          else kvm_alloc_memslot_metadata host ans k new) →
      PrepareOutcome host ans kvm new ob n change
          ((kvm_arch_prepare_memory_region host ans k old new change).bind (fun rk =>
            (kvm_prepare_undo rk.2 old new rk.1).bind (fun kvm => some (rk.1, kvm))))
        ∨ ((kvm_arch_prepare_memory_region host ans k old new change).bind (fun rk =>
            (kvm_prepare_undo rk.2 old new rk.1).bind (fun kvm => some (rk.1, kvm))) = none
          ∧ ¬ ans.metadataOk host) := by
    intro harch
    rw [harch]
    by_cases hlim : (n.base_gfn + n.npages - 1) % 2 ^ 64 > kvm_mmu_max_gfn host
    · rw [if_pos hlim]
      exact .inl (prepare_outcome_limit hprep hn hslot hkob hfrom hblive hnew hfresh)
    · rw [if_neg hlim]
      by_cases hok : ans.metadataOk host
      · obtain ⟨k', ek', hak'⟩ := (kvm_alloc_memslot_metadata_spec hsome).1 hok
        rw [ek']
        exact .inl (prepare_outcome_success old hprep hkn hfrom hblive hlog'
          (fun _ => Nat.le_of_not_lt hlim) hak')
      · rw [(kvm_alloc_memslot_metadata_spec hsome).2 hok]
        exact .inr ⟨rfl, hok⟩
  match change, hchange, hflags, hregion with
  | KVM_MR_CREATE, _, _, hregion =>
    exact hregion (by simp [kvm_arch_prepare_memory_region, hkn])
  | KVM_MR_MOVE, _, _, hregion =>
    exact hregion (by simp [kvm_arch_prepare_memory_region, hkn])
  | KVM_MR_FLAGS_ONLY, _, hflags, _ =>
    left
    have hold : old ≠ 0 := hflags rfl
    obtain ⟨o, ho⟩ : ∃ o, k.slot old = some o := by
      rw [old_dirty_bitmap, if_pos hold] at hkob
      obtain ⟨o, ho, -⟩ := Option.map_eq_some_iff.1 hkob
      exact ⟨o, ho⟩
    obtain ⟨k', ek', hak', -⟩ := setArch_spec hkn (fun _ => o.arch)
    have harch : kvm_arch_prepare_memory_region host ans k old new KVM_MR_FLAGS_ONLY
        = some (STATUS_SUCCESS, k') := by
      simp only [kvm_arch_prepare_memory_region, ho, Option.bind_eq_bind, Option.bind_some, ek']
      rfl
    rw [harch]
    exact prepare_outcome_success old hprep hkn hfrom hblive hlog' (fun h => absurd rfl h) hak'

end prepare

end Svmx.MemSlot
