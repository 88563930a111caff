/-
The arch data of a slot, from `kvm_alloc_memslot_metadata` to `kvm_arch_free_memslot`.

Three reverse maps and two `lpage_info` arrays are allocated one by one, and freed by two loops that
the error path shares. The loops free every pointer, and ExFreePool does not take NULL: a slot without
reverse maps has three of them, and an allocation that failed has left one. So only with reverse maps
and without a failure is everything freed once (`metadata_freed_iff`).
-/
import Svmx.MemLpage

set_option autoImplicit false

namespace Svmx.MemSlot

open RbTree NtStatus

/-! ## Blocks that come and go -/

/-- The blocks at `ps` were allocated, and nothing else in the pool has changed. -/
structure Filled (ps : List Ptr) (kvm kvm' : Kvm) : Prop where
  held : ∀ q ∈ ps, (kvm'.pool q).isSome
  other : ∀ q, q ∉ ps → kvm'.pool q = kvm.pool q

/-- The blocks at `ps` were freed, and nothing else in the pool has changed. -/
structure Emptied (ps : List Ptr) (kvm kvm' : Kvm) : Prop where
  freed : ∀ q ∈ ps, kvm'.pool q = none
  other : ∀ q, q ∉ ps → kvm'.pool q = kvm.pool q

section Pool

variable {ps qs : List Ptr} {a b c : Kvm}

theorem Filled.append (h : Filled ps a b) (h' : Filled qs b c) : Filled (ps ++ qs) a c where
  held q hq := by
    by_cases hqs : q ∈ qs
    · exact h'.held q hqs
    · rw [h'.other q hqs]
      exact h.held q ((List.mem_append.mp hq).resolve_right hqs)
  other q hq := by
    obtain ⟨hps, hqs⟩ := not_or.mp (mt List.mem_append.mpr hq)
    rw [h'.other q hqs, h.other q hps]

theorem Emptied.append (h : Emptied ps a b) (h' : Emptied qs b c) : Emptied (ps ++ qs) a c where
  freed q hq := by
    by_cases hqs : q ∈ qs
    · exact h'.freed q hqs
    · rw [h'.other q hqs]
      exact h.freed q ((List.mem_append.mp hq).resolve_right hqs)
  other q hq := by
    obtain ⟨hps, hqs⟩ := not_or.mp (mt List.mem_append.mpr hq)
    rw [h'.other q hqs, h.other q hps]

/-- Blocks that are allocated where there were none, and freed again. -/
theorem Filled.emptied (h : Filled ps a b) (h' : Emptied ps b c) (hfresh : ∀ q ∈ ps, a.pool q = none) :
    c.pool = a.pool := by
  funext q
  by_cases hq : q ∈ ps
  · rw [h'.freed q hq, hfresh q hq]
  · rw [h'.other q hq, h.other q hq]

end Pool

variable {kvm : Kvm} {p : Ptr} {m : KvmMemorySlot}

theorem setArch_eq (hm : kvm.slot p = some m) (f : KvmArchMemorySlot → KvmArchMemorySlot) :
    kvm.setArch p f = some (kvm.setSlot p { m with arch := f m.arch }) := by
  simp only [Kvm.setArch, hm, Option.bind_eq_bind, Option.bind_some, Option.pure_def]

/-- One allocation and the write of its pointer. -/
theorem alloc_round (hm : kvm.slot p = some m) {q : Ptr} (hq : q ≠ 0) (b : PoolBlock)
    (f : KvmArchMemorySlot → KvmArchMemorySlot) :
    ∃ k, (kvm.allocBlock q b).setArch p f = some k ∧
      k.slot p = some { m with arch := f m.arch } ∧ Filled [q] kvm k := by
  have hm' : (kvm.allocBlock q b).slot p = some m := by rw [allocBlock_slot, hm]
  refine ⟨_, setArch_eq hm' f, Function.update_self _ _ _, ?_, ?_⟩
  · intro r hr
    obtain rfl := List.mem_singleton.mp hr
    simp only [Kvm.setSlot, Kvm.allocBlock, if_neg hq, Function.update_self, Option.isSome_some]
  · intro r hr
    have hne : r ≠ q := fun heq => hr (List.mem_singleton.mpr heq)
    simp only [Kvm.setSlot, Kvm.allocBlock, if_neg hq, Function.update_of_ne hne]

/-- One ExFreePool and the write of NULL over its pointer. -/
theorem free_round (hm : kvm.slot p = some m) {q : Ptr} (hq : q ≠ 0) (hheld : (kvm.pool q).isSome)
    (f : KvmArchMemorySlot → KvmArchMemorySlot) :
    ∃ k₁ k, kvm.freeBlock q = some k₁ ∧ k₁.setArch p f = some k ∧
      k.slot p = some { m with arch := f m.arch } ∧ Emptied [q] kvm k := by
  obtain ⟨b, hb⟩ := Option.isSome_iff_exists.mp hheld
  let k₁ : Kvm := { kvm with pool := Function.update kvm.pool q none }
  have hm₁ : k₁.slot p = some m := hm
  have hfree : kvm.freeBlock q = some k₁ := by
    simp only [Kvm.freeBlock, if_neg hq, hb, Option.bind_eq_bind, Option.bind_some, Option.pure_def]
    rfl
  refine ⟨k₁, _, hfree, setArch_eq hm₁ f, Function.update_self _ _ _, ?_, ?_⟩
  · intro r hr
    obtain rfl := List.mem_singleton.mp hr
    exact Function.update_self _ _ _
  · intro r hr
    exact Function.update_of_ne (fun heq => hr (List.mem_singleton.mpr heq)) _ _

/-! ## The loops that allocate -/

/-- The reverse maps, where the pool gives all of them. -/
theorem rmap_loop_filled (ans : PoolAnswers) (npages : ℕ) (is : List (Fin 3)) (hnodup : is.Nodup)
    (hm : kvm.slot p = some m) (hnull : ∀ i ∈ is, m.arch.rmap i = 0)
    (hok : ∀ i ∈ is, ans.rmap i ≠ 0) :
    ∃ k, memslot_rmap_alloc_loop ans p npages kvm is = some (STATUS_SUCCESS, k) ∧
      k.slot p = some { m with
        arch := is.foldl (fun arch i => arch.setRmap i (ans.rmap i)) m.arch } ∧
      Filled (is.map ans.rmap) kvm k := by
  induction is generalizing kvm m with
  | nil => exact ⟨kvm, rfl, hm, fun _ hq => absurd hq List.not_mem_nil, fun _ _ => rfl⟩
  | cons i is ih =>
    obtain ⟨hi, hnodup⟩ := List.nodup_cons.mp hnodup
    have hne : ans.rmap i ≠ 0 := hok i List.mem_cons_self
    obtain ⟨k₁, hk₁, hm₁, hfilled⟩ := alloc_round hm hne
      (.rmap (kvm_mmu_slot_lpages m npages (i + 1))) (·.setRmap i (ans.rmap i))
    have hnull₁ : ∀ j ∈ is, (m.arch.setRmap i (ans.rmap i)).rmap j = 0 := by
      intro j hj
      have hji : j ≠ i := fun heq => hi (heq ▸ hj)
      exact (Function.update_of_ne hji _ _).trans (hnull j (List.mem_cons_of_mem _ hj))
    obtain ⟨k, hk, hmk, hrest⟩ := ih hnodup hm₁ hnull₁ fun j hj => hok j (List.mem_cons_of_mem _ hj)
    refine ⟨k, ?_, hmk, hfilled.append hrest⟩
    rw [memslot_rmap_alloc_loop, hm]
    simp only [Option.bind_eq_bind, Option.bind_some, hnull i List.mem_cons_self, ne_eq,
      not_true_eq_false, if_false, hk₁, if_neg hne, hk]

/-- The `lpage_info` arrays, where the pool gives both. -/
theorem lpage_loop_filled (ans : PoolAnswers) (npages : ℕ) (is : List (Fin 2))
    (hm : kvm.slot p = some m) (hok : ∀ i ∈ is, ans.lpage_info i ≠ 0) :
    ∃ k, alloc_lpage_loop ans p npages kvm is = some (STATUS_SUCCESS, k) ∧
      k.slot p = some { m with
        arch := is.foldl (fun arch i => arch.setLpage i (ans.lpage_info i)) m.arch } ∧
      Filled (is.map ans.lpage_info) kvm k := by
  induction is generalizing kvm m with
  | nil => exact ⟨kvm, rfl, hm, fun _ hq => absurd hq List.not_mem_nil, fun _ _ => rfl⟩
  | cons i is ih =>
    have hne : ans.lpage_info i ≠ 0 := hok i List.mem_cons_self
    have hround := alloc_round hm hne (.lpage_info (kvm_mmu_slot_lpages m npages (i.val + 2))
      (mark_disallow_lpage (ans.lpage_raw i) m.base_gfn npages (i.val + 2)
        (kvm_mmu_slot_lpages m npages (i.val + 2)))) (·.setLpage i (ans.lpage_info i))
    obtain ⟨k₁, hk₁, hm₁, hfilled⟩ := hround
    obtain ⟨k, hk, hmk, hrest⟩ := ih hm₁ fun j hj => hok j (List.mem_cons_of_mem _ hj)
    refine ⟨k, ?_, hmk, hfilled.append hrest⟩
    rw [alloc_lpage_loop, hm]
    simp only [Option.bind_eq_bind, Option.bind_some, if_neg hne, hk₁, hk]

/-- What the pool answers to the five allocations. -/
def PoolAnswers.metadata (ans : PoolAnswers) : List Ptr :=
  List.ofFn ans.rmap ++ List.ofFn ans.lpage_info

theorem setRmap_all (arch : KvmArchMemorySlot) (ptr : Fin 3 → Ptr) :
    ([0, 1, 2] : List (Fin 3)).foldl (fun arch i => arch.setRmap i (ptr i)) arch
      = { arch with rmap := ptr } := by
  simp only [List.foldl_cons, List.foldl_nil, KvmArchMemorySlot.setRmap, KvmArchMemorySlot.mk.injEq,
    and_true]
  funext i
  rcases i with ⟨_ | _ | _ | i, hi⟩
  · rfl
  · rfl
  · rfl
  · omega

theorem setLpage_all (arch : KvmArchMemorySlot) (ptr : Fin 2 → Ptr) :
    ([0, 1] : List (Fin 2)).foldl (fun arch i => arch.setLpage i (ptr i)) arch
      = { arch with lpage_info := ptr } := by
  simp only [List.foldl_cons, List.foldl_nil, KvmArchMemorySlot.setLpage, KvmArchMemorySlot.mk.injEq,
    and_true, true_and]
  funext i
  rcases i with ⟨_ | _ | i, hi⟩
  · rfl
  · rfl
  · omega

variable {host : Host} {ans : PoolAnswers}

/-- **The arch data with reverse maps**, where nothing fails. -/
theorem metadata_filled (hrmaps : kvm_memslots_have_rmaps host = true) (hm : kvm.slot p = some m)
    (hok : ans.metadataOk host) :
    ∃ k, kvm_alloc_memslot_metadata host ans kvm p = some (STATUS_SUCCESS, k) ∧
      k.slot p = some { m with arch := ⟨ans.rmap, ans.lpage_info, 0⟩ } ∧
      Filled ans.metadata kvm k := by
  obtain ⟨hrmap, hlpage⟩ := hok
  have hzero := setArch_eq hm fun _ => .zero
  have hm₀ : (kvm.setSlot p { m with arch := .zero }).slot p = some { m with arch := .zero } :=
    Function.update_self _ _ _
  obtain ⟨k₁, hk₁, hm₁, hfill₁⟩ := rmap_loop_filled ans m.npages [0, 1, 2] (by decide) hm₀
    (fun _ _ => rfl) (fun i _ => hrmap hrmaps i)
  rw [setRmap_all] at hm₁
  obtain ⟨k₂, hk₂, hm₂, hfill₂⟩ := lpage_loop_filled ans m.npages [0, 1] hm₁
    (fun i _ => hlpage i)
  rw [setLpage_all] at hm₂
  refine ⟨k₂, ?_, hm₂, ?_⟩
  · rw [kvm_alloc_memslot_metadata, hm]
    simp only [Option.bind_eq_bind, Option.bind_some, hzero, memslot_rmap_alloc_if, hrmaps, if_true,
      memslot_rmap_alloc, hk₁, ne_eq, not_true_eq_false, if_false, hk₂]
  · have hfill₀ : Filled (([0, 1, 2] : List (Fin 3)).map ans.rmap) kvm k₁ := ⟨hfill₁.held, hfill₁.other⟩
    exact hfill₀.append hfill₂

/-- Without reverse maps their pointers stay NULL. -/
theorem metadata_no_rmaps {kvm' : Kvm} (hrmaps : kvm_memslots_have_rmaps host = false)
    (hm : kvm.slot p = some m)
    (h : kvm_alloc_memslot_metadata host ans kvm p = some (STATUS_SUCCESS, kvm')) :
    ∃ m', kvm'.slot p = some m' ∧ m'.arch.rmap = fun _ => 0 := by
  have hok : ans.metadataOk host := by
    by_contra hbad
    rw [(kvm_alloc_memslot_metadata_spec (by rw [hm]; rfl)).2 hbad] at h
    cases h
  have hm₀ : (kvm.setSlot p { m with arch := .zero }).slot p = some { m with arch := .zero } :=
    Function.update_self _ _ _
  obtain ⟨k, hk, hmk, -⟩ := lpage_loop_filled ans m.npages [0, 1] hm₀ (fun i _ => hok.2 i)
  rw [setLpage_all] at hmk
  rw [kvm_alloc_memslot_metadata, hm] at h
  simp only [Option.bind_eq_bind, Option.bind_some, setArch_eq hm, memslot_rmap_alloc_if, hrmaps,
    Bool.false_eq_true, if_false, ne_eq, not_true_eq_false, hk] at h
  obtain rfl := (Prod.mk.inj (Option.some.inj h)).2
  exact ⟨_, hmk, rfl⟩

/-! ## The loops that free -/

/-- What the two loops that free have in common: `read` finds a pointer of the arch data, `clear`
writes NULL over it. -/
def free_loop {ι : Type} (read : KvmArchMemorySlot → ι → Ptr)
    (clear : KvmArchMemorySlot → ι → KvmArchMemorySlot) (kvm : Kvm) (slot : Ptr) :
    List ι → Option Kvm
  | [] => some kvm
  | i :: is => do
    let m ← kvm.slot slot
    let kvm ← kvm.freeBlock (read m.arch i)
    let kvm ← kvm.setArch slot (clear · i)
    free_loop read clear kvm slot is

theorem memslot_rmap_free_loop_eq (kvm : Kvm) (slot : Ptr) (is : List (Fin 3)) :
    memslot_rmap_free_loop kvm slot is
      = free_loop (·.rmap) (fun arch i => arch.setRmap i 0) kvm slot is := by
  induction is generalizing kvm with
  | nil => rfl
  | cons i is ih => simp only [memslot_rmap_free_loop, free_loop, ih]

theorem free_lpage_loop_eq (kvm : Kvm) (slot : Ptr) (is : List (Fin 2)) :
    free_lpage_loop kvm slot is
      = free_loop (·.lpage_info) (fun arch i => arch.setLpage i 0) kvm slot is := by
  induction is generalizing kvm with
  | nil => rfl
  | cons i is ih => simp only [free_lpage_loop, free_loop, ih]

/-- **The loop frees** different blocks that are all there. -/
theorem free_loop_emptied {ι : Type} (read : KvmArchMemorySlot → ι → Ptr)
    (clear : KvmArchMemorySlot → ι → KvmArchMemorySlot)
    (hother : ∀ arch i j, j ≠ i → read (clear arch i) j = read arch j) (is : List ι)
    (hm : kvm.slot p = some m) (hnodup : (is.map (read m.arch)).Nodup)
    (hne : ∀ i ∈ is, read m.arch i ≠ 0) (hheld : ∀ i ∈ is, (kvm.pool (read m.arch i)).isSome) :
    ∃ k, free_loop read clear kvm p is = some k ∧
      k.slot p = some { m with arch := is.foldl clear m.arch } ∧
      Emptied (is.map (read m.arch)) kvm k := by
  induction is generalizing kvm m with
  | nil => exact ⟨kvm, rfl, hm, fun _ hq => absurd hq List.not_mem_nil, fun _ _ => rfl⟩
  | cons i is ih =>
    rw [List.map_cons, List.nodup_cons] at hnodup
    obtain ⟨hi, hnodup⟩ := hnodup
    obtain ⟨k₁, k₂, hk₁, hk₂, hm₂, hempty⟩ := free_round hm (hne i List.mem_cons_self)
      (hheld i List.mem_cons_self) (clear · i)
    -- The other pointers are what they were, and their blocks are still there.
    have hread : ∀ j ∈ is, read (clear m.arch i) j = read m.arch j := by
      intro j hj
      apply hother
      rintro rfl
      exact hi (List.mem_map_of_mem hj)
    have hmap : is.map (read (clear m.arch i)) = is.map (read m.arch) := List.map_congr_left hread
    have hheld₂ : ∀ j ∈ is, (k₂.pool (read (clear m.arch i) j)).isSome := by
      intro j hj
      have hblock : read m.arch j ∉ [read m.arch i] := by
        rw [List.mem_singleton]
        intro heq
        exact hi (heq ▸ List.mem_map_of_mem hj)
      rw [hread j hj, hempty.other _ hblock]
      exact hheld j (List.mem_cons_of_mem _ hj)
    obtain ⟨k, hk, hmk, hrest⟩ := ih hm₂ (by rw [hmap]; exact hnodup)
      (fun j hj => by rw [hread j hj]; exact hne j (List.mem_cons_of_mem _ hj)) hheld₂
    rw [hmap] at hrest
    refine ⟨k, ?_, hmk, hempty.append hrest⟩
    rw [free_loop, hm]
    simp only [Option.bind_eq_bind, Option.bind_some, hk₁, hk₂, hk]

/-- **`kvm_arch_free_memslot`** on five different blocks that are all there. -/
theorem arch_free_emptied (hm : kvm.slot p = some { m with arch := ⟨ans.rmap, ans.lpage_info, 0⟩ })
    (hnodup : ans.metadata.Nodup) (hne : ∀ q ∈ ans.metadata, q ≠ 0)
    (hheld : ∀ q ∈ ans.metadata, (kvm.pool q).isSome) :
    ∃ k, kvm_arch_free_memslot kvm p = some k ∧ k.slot p = some { m with arch := .zero } ∧
      Emptied ans.metadata kvm k := by
  obtain ⟨hrmaps, hlpages, hapart⟩ := List.nodup_append.mp hnodup
  have hrmap : ∀ i ∈ ([0, 1, 2] : List (Fin 3)), ans.rmap i ∈ ans.metadata := fun i _ =>
    List.mem_append_left _ (List.mem_ofFn.mpr ⟨i, rfl⟩)
  have hlpage : ∀ i ∈ ([0, 1] : List (Fin 2)), ans.lpage_info i ∈ ans.metadata := fun i _ =>
    List.mem_append_right _ (List.mem_ofFn.mpr ⟨i, rfl⟩)
  obtain ⟨k₁, hk₁, hm₁, hempty₁⟩ := free_loop_emptied (·.rmap) (fun arch i => arch.setRmap i 0)
    (fun _ _ _ hji => Function.update_of_ne hji _ _) [0, 1, 2] hm
    hrmaps (fun i hi => hne _ (hrmap i hi)) (fun i hi => hheld _ (hrmap i hi))
  rw [setRmap_all _ fun _ => 0] at hm₁
  have hheld₁ : ∀ i ∈ ([0, 1] : List (Fin 2)), (k₁.pool (ans.lpage_info i)).isSome := by
    intro i hi
    rw [hempty₁.other]
    · exact hheld _ (hlpage i hi)
    · intro hmem
      exact hapart _ hmem _ (List.mem_map_of_mem hi) rfl
  obtain ⟨k₂, hk₂, hm₂, hempty₂⟩ := free_loop_emptied (·.lpage_info)
    (fun arch i => arch.setLpage i 0) (fun _ _ _ hji => Function.update_of_ne hji _ _) [0, 1] hm₁
    hlpages (fun i hi => hne _ (hlpage i hi)) hheld₁
  rw [setLpage_all _ fun _ => 0] at hm₂
  refine ⟨k₂, ?_, hm₂, hempty₁.append hempty₂⟩
  rw [kvm_arch_free_memslot, memslot_rmap_free, memslot_rmap_free_loop_eq, hk₁]
  simp only [Option.bind_eq_bind, Option.bind_some, free_lpage_loop_eq]
  exact hk₂

/-! ## The whole life of the arch data -/

/-- `kvm_alloc_memslot_metadata`, and on success `kvm_arch_free_memslot`. -/
def alloc_and_free (host : Host) (ans : PoolAnswers) (kvm : Kvm) (slot : Ptr) : Option Kvm := do
  let (r, kvm) ← kvm_alloc_memslot_metadata host ans kvm slot
  if r = STATUS_SUCCESS then kvm_arch_free_memslot kvm slot else some kvm

/-- Every ExFreePool gets a block that is there, so none is freed twice; at the end the pool is as it
was, and the arch pointers of the slot are NULL. -/
def MetadataFreed (host : Host) (ans : PoolAnswers) (kvm : Kvm) (slot : Ptr) : Prop :=
  ∃ kvm', alloc_and_free host ans kvm slot = some kvm' ∧ kvm'.pool = kvm.pool ∧
    (kvm'.slot slot).map (·.arch) = some .zero

/-- What the pool promises: memory that is not in use, in different places. -/
structure PoolAnswers.MetadataFresh (ans : PoolAnswers) (kvm : Kvm) : Prop where
  unused : ∀ q ∈ ans.metadata, q ≠ 0 → kvm.pool q = none
  different : (ans.metadata.filter (· ≠ 0)).Nodup

/-- Reverse maps are in use, and the five allocations succeed. -/
def AllAllocated (host : Host) (ans : PoolAnswers) : Prop :=
  kvm_memslots_have_rmaps host = true ∧ ∀ q ∈ ans.metadata, q ≠ 0

theorem metadataOk_iff (hrmaps : kvm_memslots_have_rmaps host = true) :
    ans.metadataOk host ↔ ∀ q ∈ ans.metadata, q ≠ 0 := by
  constructor
  · rintro ⟨hrmap, hlpage⟩ q hq
    rcases List.mem_append.mp hq with hq | hq
    · obtain ⟨i, rfl⟩ := List.mem_ofFn.mp hq
      exact hrmap hrmaps i
    · obtain ⟨i, rfl⟩ := List.mem_ofFn.mp hq
      exact hlpage i
  · intro h
    refine ⟨fun _ i => h _ ?_, fun i => h _ ?_⟩
    · exact List.mem_append_left _ (List.mem_ofFn.mpr ⟨i, rfl⟩)
    · exact List.mem_append_right _ (List.mem_ofFn.mpr ⟨i, rfl⟩)

/-- **The arch data is freed once and for all** if and only if reverse maps are in use and no
allocation fails. -/
theorem metadata_freed_iff (hm : kvm.slot p = some m) (hfresh : ans.MetadataFresh kvm) :
    MetadataFreed host ans kvm p ↔ AllAllocated host ans := by
  have hslot : (kvm.slot p).isSome := by
    rw [hm]
    rfl
  constructor
  · rintro ⟨k, hk, -, -⟩
    have hok : ans.metadataOk host := by
      by_contra hbad
      rw [alloc_and_free, (kvm_alloc_memslot_metadata_spec hslot).2 hbad] at hk
      cases hk
    cases hrmaps : kvm_memslots_have_rmaps host with
    | true => exact ⟨hrmaps, (metadataOk_iff hrmaps).mp hok⟩
    | false =>
      -- The first reverse map that is freed is NULL.
      obtain ⟨k₁, hk₁, -⟩ := (kvm_alloc_memslot_metadata_spec hslot).1 hok
      obtain ⟨m', hm', hnull⟩ := metadata_no_rmaps hrmaps hm hk₁
      rw [alloc_and_free, hk₁] at hk
      simp only [Option.bind_eq_bind, Option.bind_some, if_true, kvm_arch_free_memslot,
        memslot_rmap_free, memslot_rmap_free_loop_null hm' (mem_rmap_indices 0) (congrFun hnull 0),
        Option.bind_none, reduceCtorEq] at hk
  · rintro ⟨hrmaps, hne⟩
    obtain ⟨k, hk, hmk, hfill⟩ := metadata_filled hrmaps hm ((metadataOk_iff hrmaps).mpr hne)
    have hnodup : ans.metadata.Nodup := by
      have hall : ans.metadata.filter (· ≠ 0) = ans.metadata :=
        List.filter_eq_self.mpr fun q hq => decide_eq_true (hne q hq)
      rw [← hall]
      exact hfresh.different
    obtain ⟨k', hk', hmk', hempty⟩ := arch_free_emptied hmk hnodup hne hfill.held
    refine ⟨k', ?_, hfill.emptied hempty fun q hq => hfresh.unused q hq (hne q hq), ?_⟩
    · rw [alloc_and_free, hk]
      exact hk'
    · rw [hmk']
      rfl

/-- A host without the TDP MMU, whose slots have reverse maps. -/
def shadowHost : Host := ⟨false, false, 40⟩

/-- A pool that answers with the given addresses for the arch data. -/
def metadataAnswers (rmap lpage₀ lpage₁ : Ptr) : PoolAnswers :=
  { exampleAnswers 0 0 lpage₀ lpage₁ with rmap := fun i => rmap + 4 * i.val }

theorem metadata_freed_shadow :
    MetadataFreed shadowHost (metadataAnswers 64 76 80) misalignedKvm 16 := by
  have hm : misalignedKvm.slot 16 = some ⟨500, 600, 0, .zero, 0, 1, 0⟩ := rfl
  exact (metadata_freed_iff hm ⟨fun _ _ _ => rfl, by decide⟩).mpr ⟨rfl, by decide⟩

/-- With the TDP MMU nothing fails, and the NULL pointers of the reverse maps are freed. Without it the
last allocation fails, and its NULL pointer is. -/
theorem metadata_null_freed :
    ¬ MetadataFreed exampleHost (metadataAnswers 64 76 80) misalignedKvm 16 ∧
      ¬ MetadataFreed shadowHost (metadataAnswers 64 76 0) misalignedKvm 16 := by
  have hnone : (alloc_and_free exampleHost (metadataAnswers 64 76 80) misalignedKvm 16).isNone ∧
      (alloc_and_free shadowHost (metadataAnswers 64 76 0) misalignedKvm 16).isNone := by
    decide
  obtain ⟨hrmaps, hfailed⟩ := hnone
  constructor
  · rintro ⟨k, hk, -⟩
    rw [hk] at hrmaps
    cases hrmaps
  · rintro ⟨k, hk, -⟩
    rw [hk] at hfailed
    cases hfailed

end Svmx.MemSlot
