/-
The `lpage_info` arrays of a slot, from the allocation to the reader.

`kvm_alloc_memslot_metadata` allocates `__kvm_mmu_slot_lpages` entries for each large page size and
marks the first and the last one if the slot is not aligned there; the rest of the memory holds what
the pool left in it. `lpage_info_slot` stays inside the array for every gfn of the slot, and an entry
that was not marked stands for a block that lies inside the slot, so the loop of
`kvm_mmu_max_mapping_level` only selects such blocks (`lpage_blocks_inside`).
-/
import Svmx.MemRun

set_option autoImplicit false

namespace Svmx.MemSlot

open RbTree
open NtStatus

/-! ## The reader -/

/-- The `disallow_lpage` word of `lpage_info_slot`; reading past the array faults. -/
def lpage_info_slot (kvm : Kvm) (gfn : ℕ) (slot : KvmMemorySlot) (level : ℕ) : Option ℕ :=
  if h : 2 ≤ level ∧ level ≤ 3 then
    match kvm.pool (slot.arch.lpage_info ⟨level - 2, by omega⟩) with
    | some (.lpage_info entries disallow_lpage) =>
      let idx := gfn_to_index gfn slot.base_gfn level
      if idx < entries then some (disallow_lpage idx) else none
    | _ => none
  else none

/-- The loop of `kvm_mmu_max_mapping_level`: the level it stops at. -/
def max_mapping_loop (kvm : Kvm) (gfn : ℕ) (slot : KvmMemorySlot) : ℕ → Option ℕ
  | 0 => some 0
  | level + 1 =>
    if PG_LEVEL_4K < level + 1 then do
      let disallow_lpage ← lpage_info_slot kvm gfn slot (level + 1)
      if disallow_lpage ≠ 0 then max_mapping_loop kvm gfn slot level else some (level + 1)
    else some (level + 1)

/-! ## The marks -/

/-- The entries that the allocation marks. -/
def Marked (base_gfn npages level idx : ℕ) : Prop :=
  (base_gfn % 512 ^ (level - 1) ≠ 0 ∧ idx = 0) ∨
    ((base_gfn + npages) % 512 ^ (level - 1) ≠ 0 ∧
      idx = gfn_to_index (base_gfn + npages - 1) base_gfn level)

/-- The level-aligned block of a gfn lies inside the slot. -/
def BlockInside (base_gfn npages gfn level : ℕ) : Prop :=
  base_gfn ≤ gfn / 512 ^ (level - 1) * 512 ^ (level - 1) ∧
    (gfn / 512 ^ (level - 1) + 1) * 512 ^ (level - 1) ≤ base_gfn + npages

theorem gfn_to_index_eq (gfn base_gfn level : ℕ) :
    gfn_to_index gfn base_gfn level =
      gfn / 512 ^ (level - 1) - base_gfn / 512 ^ (level - 1) := by
  have hpow : 2 ^ KVM_HPAGE_GFN_SHIFT level = 512 ^ (level - 1) := by
    rw [KVM_HPAGE_GFN_SHIFT, Nat.mul_comm, Nat.pow_mul]
  rw [gfn_to_index, hpow]

theorem pages_per_hpage_large {level : ℕ} (h : level = 2 ∨ level = 3) :
    KVM_PAGES_PER_HPAGE level = 512 ^ (level - 1) := by
  rcases h with rfl | rfl
  · rfl
  · rfl

/-- The writes of the allocation are the marks. -/
theorem mark_disallow_lpage_spec (raw : ℕ → ℕ) (base_gfn npages : ℕ) {level : ℕ}
    (hlevel : level = 2 ∨ level = 3) (idx : ℕ) :
    (Marked base_gfn npages level idx → mark_disallow_lpage raw base_gfn npages level
      (gfn_to_index (base_gfn + npages - 1) base_gfn level + 1) idx = 1) ∧
    (¬ Marked base_gfn npages level idx → mark_disallow_lpage raw base_gfn npages level
      (gfn_to_index (base_gfn + npages - 1) base_gfn level + 1) idx = raw idx) := by
  unfold mark_disallow_lpage Marked
  rw [pages_per_hpage_large hlevel]
  simp only [Nat.add_sub_cancel]
  by_cases hlast : (base_gfn + npages) % 512 ^ (level - 1) ≠ 0 ∧
      idx = gfn_to_index (base_gfn + npages - 1) base_gfn level
  · obtain ⟨hend, rfl⟩ := hlast
    rw [if_pos hend, Function.update_self]
    exact ⟨fun _ => rfl, fun hnot => absurd (Or.inr ⟨hend, rfl⟩) hnot⟩
  · have houter : (if (base_gfn + npages) % 512 ^ (level - 1) ≠ 0 then
        Function.update (if base_gfn % 512 ^ (level - 1) ≠ 0 then Function.update raw 0 1 else raw)
          (gfn_to_index (base_gfn + npages - 1) base_gfn level) 1
        else if base_gfn % 512 ^ (level - 1) ≠ 0 then Function.update raw 0 1 else raw) idx =
        (if base_gfn % 512 ^ (level - 1) ≠ 0 then Function.update raw 0 1 else raw) idx := by
      split
      next hend => exact Function.update_of_ne (fun hidx => hlast ⟨hend, hidx⟩) ..
      next => rfl
    rw [houter]
    by_cases hfirst : base_gfn % 512 ^ (level - 1) ≠ 0 ∧ idx = 0
    · obtain ⟨hbase, rfl⟩ := hfirst
      rw [if_pos hbase, Function.update_self]
      exact ⟨fun _ => rfl, fun hnot => absurd (Or.inl ⟨hbase, rfl⟩) hnot⟩
    · refine ⟨fun hmarked => absurd hmarked (not_or.mpr ⟨hfirst, hlast⟩), fun _ => ?_⟩
      split
      next hbase => exact Function.update_of_ne (fun hidx => hfirst ⟨hbase, hidx⟩) ..
      next => rfl

/-! ## Blocks -/

section Blocks

variable {base_gfn npages gfn level : ℕ}

/-- The index of a gfn of the slot is inside the array. -/
theorem index_in_array (hgfn : gfn < base_gfn + npages) :
    gfn_to_index gfn base_gfn level <
      gfn_to_index (base_gfn + npages - 1) base_gfn level + 1 := by
  rw [gfn_to_index_eq, gfn_to_index_eq]
  have hmono : gfn / 512 ^ (level - 1) ≤ (base_gfn + npages - 1) / 512 ^ (level - 1) :=
    Nat.div_le_div_right (by omega)
  omega

/-- **An entry that was not marked** stands for a block inside the slot. -/
theorem block_inside_of_not_marked (hlo : base_gfn ≤ gfn) (hhi : gfn < base_gfn + npages)
    (hnot : ¬ Marked base_gfn npages level (gfn_to_index gfn base_gfn level)) :
    BlockInside base_gfn npages gfn level := by
  unfold Marked at hnot
  rw [gfn_to_index_eq, gfn_to_index_eq] at hnot
  unfold BlockInside
  have hd : 0 < 512 ^ (level - 1) := Nat.pow_pos (by omega)
  generalize 512 ^ (level - 1) = d at *
  have hbase : base_gfn / d ≤ gfn / d := Nat.div_le_div_right hlo
  have hlast : gfn / d ≤ (base_gfn + npages - 1) / d := Nat.div_le_div_right (by omega)
  constructor
  · by_cases hfirst : gfn / d = base_gfn / d
    · -- the first block starts at the slot
      have haligned : base_gfn % d = 0 := by
        by_contra hmis
        exact hnot (Or.inl ⟨hmis, by omega⟩)
      rw [hfirst, Nat.div_mul_cancel (Nat.dvd_of_mod_eq_zero haligned)]
    · have hnext : (base_gfn / d + 1) * d ≤ gfn / d * d := Nat.mul_le_mul_right d (by omega)
      have hlt : base_gfn < (base_gfn / d + 1) * d := by
        rw [Nat.add_mul, Nat.one_mul]
        exact Nat.lt_div_mul_add hd
      omega
  · by_cases hend : gfn / d = (base_gfn + npages - 1) / d
    · -- the last block ends with the slot
      have haligned : (base_gfn + npages) % d = 0 := by
        by_contra hmis
        exact hnot (Or.inr ⟨hmis, by omega⟩)
      obtain ⟨c, hc⟩ := Nat.dvd_of_mod_eq_zero haligned
      have hc1 : gfn / d < c := by
        rw [Nat.div_lt_iff_lt_mul hd, Nat.mul_comm, ← hc]
        exact hhi
      rw [hc, Nat.mul_comm d c]
      exact Nat.mul_le_mul_right d hc1
    · have hnext : (gfn / d + 1) * d ≤ (base_gfn + npages - 1) / d * d :=
        Nat.mul_le_mul_right d (by omega)
      have hle := Nat.div_mul_le_self (base_gfn + npages - 1) d
      omega

end Blocks

/-! ## The allocation -/

/-- The array that the allocation makes for index `i`, which is level `i + 2`. -/
def lpageBlock (ans : PoolAnswers) (base_gfn npages : ℕ) (i : Fin 2) : PoolBlock :=
  .lpage_info (gfn_to_index (base_gfn + npages - 1) base_gfn (i.val + 2) + 1)
    (mark_disallow_lpage (ans.lpage_raw i) base_gfn npages (i.val + 2)
      (gfn_to_index (base_gfn + npages - 1) base_gfn (i.val + 2) + 1))

/-- The label `out_free` does not return success. -/
theorem out_free_status {kvm kvm' : Kvm} {p : Ptr} :
    kvm_alloc_memslot_out_free kvm p ≠ some (STATUS_SUCCESS, kvm') := by
  intro h
  obtain ⟨k, -, h⟩ := Option.bind_eq_some_iff.mp h
  obtain ⟨k', -, h⟩ := Option.bind_eq_some_iff.mp h
  cases (Prod.mk.inj (Option.some.inj h)).1

/-- One round of the loop that allocates the arrays. -/
theorem alloc_lpage_round {ans : PoolAnswers} {p : Ptr} {npages : ℕ} {kvm kvm' : Kvm}
    {m : KvmMemorySlot} {i : Fin 2} {is : List (Fin 2)} (hm : kvm.slot p = some m)
    (h : alloc_lpage_loop ans p npages kvm (i :: is) = some (STATUS_SUCCESS, kvm')) :
    ∃ k, k.slot p = some { m with arch := m.arch.setLpage i (ans.lpage_info i) } ∧
      k.pool = Function.update kvm.pool (ans.lpage_info i)
        (some (lpageBlock ans m.base_gfn npages i)) ∧
      alloc_lpage_loop ans p npages k is = some (STATUS_SUCCESS, kvm') := by
  rw [alloc_lpage_loop, hm] at h
  simp only [Option.bind_eq_bind, Option.bind_some] at h
  split at h
  · exact absurd h out_free_status
  · next hne =>
    have hslot : ∀ b, (kvm.allocBlock (ans.lpage_info i) b).slot p = some m := by
      intro b
      rw [allocBlock_slot, hm]
    simp only [Kvm.setArch, hslot, Option.bind_eq_bind, Option.bind_some] at h
    refine ⟨_, ?_, ?_, h⟩
    · simp [Kvm.setSlot]
    · simp only [Kvm.setSlot, Kvm.allocBlock, if_neg hne]
      rfl

/-- What a successful allocation leaves of a slot: its frames, the two arrays and what they hold. -/
structure HasLpages (ans : PoolAnswers) (kvm : Kvm) (m m' : KvmMemorySlot) : Prop where
  base_gfn : m'.base_gfn = m.base_gfn
  npages : m'.npages = m.npages
  array : ∀ i, m'.arch.lpage_info i = ans.lpage_info i
  block : ∀ i, kvm.pool (ans.lpage_info i) = some (lpageBlock ans m.base_gfn m.npages i)

/-- **The arrays** after a successful allocation. -/
theorem kvm_alloc_memslot_metadata_lpages {host : Host} {ans : PoolAnswers} {kvm kvm' : Kvm}
    {p : Ptr} {m : KvmMemorySlot} (hm : kvm.slot p = some m)
    (hne : ans.lpage_info 0 ≠ ans.lpage_info 1)
    (h : kvm_alloc_memslot_metadata host ans kvm p = some (STATUS_SUCCESS, kvm')) :
    ∃ m', kvm'.slot p = some m' ∧ HasLpages ans kvm' m m' := by
  rw [kvm_alloc_memslot_metadata, hm] at h
  simp only [Option.bind_eq_bind, Option.bind_some] at h
  obtain ⟨k, hk, -, hslot⟩ := setArch_spec hm (fun _ => .zero)
  rw [hk, Option.bind_some] at h
  obtain ⟨⟨r, k₁⟩, hrmap, hrest⟩ := Option.bind_eq_some_iff.mp h
  dsimp only at hrest
  split at hrest
  · next hr =>
    exact absurd (Prod.mk.inj (Option.some.inj hrest)).1 hr
  · next hr =>
    have hr : r = STATUS_SUCCESS := not_not.mp hr
    subst hr
    -- the reverse maps leave the frames of the slot alone
    obtain ⟨m₁, hm₁, hbase, hnpages⟩ : ∃ m₁, k₁.slot p = some m₁ ∧ m₁.base_gfn = m.base_gfn ∧
        m₁.npages = m.npages := by
      unfold memslot_rmap_alloc_if at hrmap
      split at hrmap
      · have hspec := memslot_rmap_alloc_loop_spec ans p m.npages [0, 1, 2] (by decide) hslot
          (fun _ _ => rfl)
        unfold memslot_rmap_alloc at hrmap
        split at hspec
        · obtain ⟨k₂, m₂, heq, harch, hm₂, -⟩ := hspec
          rw [hrmap] at heq
          obtain rfl := (Prod.mk.inj (Option.some.inj heq)).2
          have hno := harch.slot p
          rw [hm₂, hslot] at hno
          have hno' : m₂.noArch = KvmMemorySlot.noArch { m with arch := .zero } :=
            Option.some.inj hno
          have hbase : m₂.noArch.base_gfn = m.base_gfn := by rw [hno']; rfl
          have hnpages : m₂.noArch.npages = m.npages := by rw [hno']; rfl
          exact ⟨m₂, hm₂, hbase, hnpages⟩
        · rw [hrmap] at hspec
          cases hspec
      · obtain rfl := (Prod.mk.inj (Option.some.inj hrmap)).2
        exact ⟨_, hslot, rfl, rfl⟩
    obtain ⟨k₂, hm₂, hpool₂, h₂⟩ := alloc_lpage_round hm₁ hrest
    obtain ⟨k₃, hm₃, hpool₃, h₃⟩ := alloc_lpage_round hm₂ h₂
    rw [alloc_lpage_loop] at h₃
    obtain rfl := (Prod.mk.inj (Option.some.inj h₃)).2
    refine ⟨_, hm₃, hbase, hnpages, fun i => ?_, fun i => ?_⟩
    · have hi : i = 0 ∨ i = 1 := by omega
      rcases hi with rfl | rfl
      · simp [KvmArchMemorySlot.setLpage]
      · simp [KvmArchMemorySlot.setLpage]
    · have hi : i = 0 ∨ i = 1 := by omega
      rcases hi with rfl | rfl
      · rw [hpool₃, Function.update_of_ne hne, hpool₂, Function.update_self, hbase]
      · rw [hpool₃, Function.update_self]
        dsimp only
        rw [hbase]

/-! ## From the allocation to the reader -/

/-- What a reader of the arrays relies on for a gfn and a level: the entry is inside the array, and
if the allocation did not mark it, then the block of the gfn lies inside the slot. -/
def LpageOk (kvm : Kvm) (m : KvmMemorySlot) (gfn level : ℕ) : Prop :=
  ∃ disallow_lpage, lpage_info_slot kvm gfn m level = some disallow_lpage ∧
    (disallow_lpage = 0 → ¬ Marked m.base_gfn m.npages level (gfn_to_index gfn m.base_gfn level)) ∧
    (¬ Marked m.base_gfn m.npages level (gfn_to_index gfn m.base_gfn level) →
      BlockInside m.base_gfn m.npages gfn level)

theorem HasLpages.ok {ans : PoolAnswers} {kvm : Kvm} {m m' : KvmMemorySlot}
    (h : HasLpages ans kvm m m') {gfn level : ℕ} (hlo : m.base_gfn ≤ gfn)
    (hhi : gfn < m.base_gfn + m.npages) (hlevel : level = 2 ∨ level = 3) :
    LpageOk kvm m' gfn level := by
  have hrange : 2 ≤ level ∧ level ≤ 3 := by omega
  have hi : level - 2 + 2 = level := by omega
  have hspec := mark_disallow_lpage_spec (ans.lpage_raw ⟨level - 2, by omega⟩)
    m.base_gfn m.npages hlevel (gfn_to_index gfn m.base_gfn level)
  unfold LpageOk
  rw [h.base_gfn, h.npages]
  refine ⟨mark_disallow_lpage (ans.lpage_raw ⟨level - 2, by omega⟩) m.base_gfn m.npages level
    (gfn_to_index (m.base_gfn + m.npages - 1) m.base_gfn level + 1)
    (gfn_to_index gfn m.base_gfn level), ?_, ?_, block_inside_of_not_marked hlo hhi⟩
  · unfold lpage_info_slot
    rw [dif_pos hrange, h.array, h.block]
    simp only [lpageBlock, h.base_gfn, hi]
    rw [if_pos (index_in_array hhi)]
  · intro hzero hmarked
    rw [hspec.1 hmarked] at hzero
    cases hzero

/-- The loop stops at a level whose block lies inside the slot. -/
theorem max_mapping_loop_inside {kvm : Kvm} {m : KvmMemorySlot} {gfn : ℕ}
    (hlo : m.base_gfn ≤ gfn) (hhi : gfn < m.base_gfn + m.npages)
    (hok : ∀ level, level = 2 ∨ level = 3 → LpageOk kvm m gfn level) {max_level : ℕ}
    (h1 : 1 ≤ max_level) (h3 : max_level ≤ 3) :
    ∃ level, max_mapping_loop kvm gfn m max_level = some level ∧ 1 ≤ level ∧ level ≤ max_level ∧
      BlockInside m.base_gfn m.npages gfn level := by
  induction max_level with
  | zero => omega
  | succ k ih =>
    by_cases hk : k = 0
    · subst hk
      refine ⟨1, rfl, by omega, by omega, ?_⟩
      unfold BlockInside
      simp only [Nat.sub_self, Nat.pow_zero, Nat.div_one, Nat.mul_one]
      omega
    · have hlarge : PG_LEVEL_4K < k + 1 := by
        have h4k : PG_LEVEL_4K = 1 := rfl
        omega
      obtain ⟨d, hd, hzero, hinside⟩ := hok (k + 1) (by omega)
      rw [max_mapping_loop, if_pos hlarge, hd, Option.bind_eq_bind, Option.bind_some]
      by_cases hd0 : d = 0
      · rw [if_neg (not_not.mpr hd0)]
        exact ⟨k + 1, rfl, by omega, by omega, hinside (hzero hd0)⟩
      · rw [if_pos hd0]
        obtain ⟨level, hloop, hlevel1, hle, hin⟩ := ih (by omega) (by omega)
        exact ⟨level, hloop, hlevel1, by omega, hin⟩

/-- **Large pages stay inside the slot.** After a successful `kvm_alloc_memslot_metadata`, for which
the pool gives two different arrays: for every gfn of the slot and the levels 2 and 3 the entry that
`lpage_info_slot` reads exists, and if it was not marked the block of the gfn lies inside the slot; so
the loop of `kvm_mmu_max_mapping_level` ends, at a level whose block lies inside the slot. -/
theorem lpage_blocks_inside {host : Host} {ans : PoolAnswers} {kvm kvm' : Kvm} {p : Ptr}
    {m : KvmMemorySlot} (hm : kvm.slot p = some m) (hne : ans.lpage_info 0 ≠ ans.lpage_info 1)
    (h : kvm_alloc_memslot_metadata host ans kvm p = some (STATUS_SUCCESS, kvm')) :
    ∃ m', kvm'.slot p = some m' ∧ m'.base_gfn = m.base_gfn ∧ m'.npages = m.npages ∧
      ∀ gfn, m.base_gfn ≤ gfn → gfn < m.base_gfn + m.npages →
        (∀ level, level = 2 ∨ level = 3 → LpageOk kvm' m' gfn level) ∧
        ∀ max_level, 1 ≤ max_level → max_level ≤ 3 → ∃ level,
          max_mapping_loop kvm' gfn m' max_level = some level ∧ 1 ≤ level ∧ level ≤ max_level ∧
            BlockInside m.base_gfn m.npages gfn level := by
  obtain ⟨m', hm', hl⟩ := kvm_alloc_memslot_metadata_lpages hm hne h
  refine ⟨m', hm', hl.base_gfn, hl.npages, fun gfn hlo hhi => ?_⟩
  have hok : ∀ level, level = 2 ∨ level = 3 → LpageOk kvm' m' gfn level := fun level hlevel =>
    hl.ok hlo hhi hlevel
  refine ⟨hok, fun max_level h1 h3 => ?_⟩
  have hloop := max_mapping_loop_inside (by rw [hl.base_gfn]; exact hlo)
    (by rw [hl.base_gfn, hl.npages]; exact hhi) hok h1 h3
  rwa [hl.base_gfn, hl.npages] at hloop

/-- A VM with one slot whose 600 frames start at gfn 500. -/
def misalignedKvm : Kvm :=
  { kvm_create_vm with
    slot := fun p => if p = 16 then some ⟨500, 600, 0, .zero, 0, 1, 0⟩ else none }

/-- The theorem on a slot that is aligned at neither end, for a gfn of its only whole 2 MiB block. -/
theorem lpage_blocks_inside_misaligned : ∃ kvm' m',
    kvm_alloc_memslot_metadata exampleHost (exampleAnswers 0 0 64 68) misalignedKvm 16
      = some (STATUS_SUCCESS, kvm') ∧ kvm'.slot 16 = some m' ∧
      ∃ level, max_mapping_loop kvm' 600 m' 3 = some level ∧ 1 ≤ level ∧ level ≤ 3 ∧
        BlockInside 500 600 600 level := by
  have hm : misalignedKvm.slot 16 = some ⟨500, 600, 0, .zero, 0, 1, 0⟩ := rfl
  have hok : (exampleAnswers 0 0 64 68).metadataOk exampleHost := by
    unfold PoolAnswers.metadataOk
    decide
  obtain ⟨kvm', hcall, -⟩ := (kvm_alloc_memslot_metadata_spec (by rw [hm]; rfl)).1 hok
  obtain ⟨m', hm', -, -, hgfn⟩ := lpage_blocks_inside hm (by decide) hcall
  exact ⟨kvm', m', hcall, hm', (hgfn 600 (by decide) (by decide)).2 3 (by decide) (by decide)⟩

end Svmx.MemSlot
