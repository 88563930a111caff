/-
Changing an entry of a TDP tree and the count of mapped pages (`tdp_mmu.c`, `tdp_iter.h`).

`handle_changed_spte` and `handle_removed_pt` call each other down the subtree that an entry used to
lead to, and add to `kvm->stat.pages` or subtract from it at every leaf they meet. In shared mode
the entries of the removed tables are frozen on the way, in exclusive mode they are only read.
`pages_counted` says that on every tree the counts stay those of the leaves that can be reached
from the root, whatever entry is replaced by a non-present value, a leaf or an empty table.

`none` is the host's bug-check, a fault, or a loop that never ends. The fuel is the depth of the
recursion; an entry of level `l` needs no more than `l`.
-/
import Mathlib.Algebra.BigOperators.Intervals
import Svmx.RadixTotal
import Svmx.SpteMake
import Svmx.TdpWalk

set_option autoImplicit false

namespace Svmx.Tdp

/-! ## Writing an entry -/

/-- The page tables after a store; where there is no entry nothing is stored. -/
def PtMem.write (m : PtMem) (sptep : Sptep) (spte : BitVec 64) : PtMem where
  spt a := if a = sptep.pt then (m.spt a).map fun t i => if i.val = sptep.idx then spte else t i
    else m.spt a
  spt_null := by
    split
    · rw [m.spt_null]
      rfl
    · exact m.spt_null

/-- `__kvm_tdp_mmu_write_spte`. -/
def __kvm_tdp_mmu_write_spte (m : PtMem) (sptep : Sptep) (new_spte : BitVec 64) : Option PtMem := do
  let _ ← kvm_tdp_mmu_read_spte m sptep
  some (m.write sptep new_spte)

/-- `kvm_tdp_mmu_write_spte_atomic`: the value that was there, and the tables after the store. -/
def kvm_tdp_mmu_write_spte_atomic (m : PtMem) (sptep : Sptep) (new_spte : BitVec 64) :
    Option (BitVec 64 × PtMem) := do
  let old_spte ← kvm_tdp_mmu_read_spte m sptep
  some (old_spte, m.write sptep new_spte)

/-- `InterlockedCompareExchange64`: the value that was there, and the tables after it. -/
def compare_exchange (m : PtMem) (sptep : Sptep) (new_spte old_spte : BitVec 64) :
    Option (BitVec 64 × PtMem) := do
  let cur ← kvm_tdp_mmu_read_spte m sptep
  some (cur, if cur = old_spte then m.write sptep new_spte else m)

def is_writable_pte (pte : BitVec 64) : Bool := pte &&& PT_WRITABLE_MASK != 0

def is_mmu_writable_spte (masks : SpteMasks) (spte : BitVec 64) : Bool :=
  spte &&& masks.shadow_mmu_writable_mask != 0

def is_access_track_spte (masks : SpteMasks) (spte : BitVec 64) : Bool :=
  !spte_ad_enabled spte && spte &&& masks.shadow_acc_track_mask == 0

/-- `spte_has_volatile_bits`. -/
def spte_has_volatile_bits (masks : SpteMasks) (spte : BitVec 64) : Bool :=
  if !is_writable_pte spte && is_mmu_writable_spte masks spte then true
  else if is_access_track_spte masks spte then true
  else if spte_ad_enabled spte then
    spte &&& masks.shadow_accessed_mask == 0 ||
      (is_writable_pte spte && spte &&& masks.shadow_dirty_mask == 0)
  else false

/-- `kvm_tdp_mmu_spte_need_atomic_write`. -/
def kvm_tdp_mmu_spte_need_atomic_write (masks : SpteMasks) (old_spte : BitVec 64) (level : ℕ) :
    Bool :=
  is_shadow_present_pte old_spte && is_last_spte old_spte level &&
    spte_has_volatile_bits masks old_spte

/-- `kvm_tdp_mmu_write_spte`: the old value as far as it is known, and the tables. -/
def kvm_tdp_mmu_write_spte (masks : SpteMasks) (m : PtMem) (sptep : Sptep)
    (old_spte new_spte : BitVec 64) (level : ℕ) : Option (BitVec 64 × PtMem) :=
  if kvm_tdp_mmu_spte_need_atomic_write masks old_spte level then
    kvm_tdp_mmu_write_spte_atomic m sptep new_spte
  else do
    let m ← __kvm_tdp_mmu_write_spte m sptep new_spte
    some (old_spte, m)

/-! ## Handling a changed entry -/

/-- The page tables and `kvm->stat.pages`, one count for each page size. -/
structure TdpState where
  m : PtMem
  pages : Fin 3 → ℤ

/-- `kvm_update_page_stats`; there are no counts above level 3. -/
def kvm_update_page_stats (st : TdpState) (level : ℕ) (count : ℤ) : Option TdpState :=
  if h : 1 ≤ level ∧ level ≤ 3 then
    let i : Fin 3 := ⟨level - 1, by omega⟩
    some { st with pages := Function.update st.pages i (st.pages i + count) }
  else none

section Change

variable (mm : Mm) (sptep_to_sp : ℕ → Option KvmMmuPage) (shared : Bool)

/-- The `for (;;)` of the shared mode: with nobody else at work, an entry that is frozen already is
exchanged for ever. -/
def freeze_spte (m : PtMem) (sptep : Sptep) : Option (BitVec 64 × PtMem) := do
  let (old_spte, m) ← kvm_tdp_mmu_write_spte_atomic m sptep REMOVED_SPTE
  if is_removed_spte old_spte then none else some (old_spte, m)

/-- One round of the loop of `handle_removed_pt`. -/
def remove_entry (changed : ℕ → BitVec 64 → BitVec 64 → TdpState → Option TdpState) (level pt : ℕ)
    (st : TdpState) (i : ℕ) : Option TdpState := do
  let (old_spte, m) ← if shared then freeze_spte st.m ⟨pt, i⟩
    else (kvm_tdp_mmu_read_spte st.m ⟨pt, i⟩).map fun old_spte => (old_spte, st.m)
  changed level old_spte REMOVED_SPTE { st with m := m }

/-- `handle_removed_pt`, with the function it calls for each entry. -/
def handle_removed_pt (changed : ℕ → BitVec 64 → BitVec 64 → TdpState → Option TdpState) (pt : ℕ)
    (st : TdpState) : Option TdpState := do
  let sp ← sptep_to_sp pt
  (List.range' 0 SPTE_ENT_PER_PAGE).foldlM (remove_entry shared changed sp.role.level pt) st

/-- `handle_changed_spte`. What it does for accessed and dirty leaves has no effect. -/
def handle_changed_spte : ℕ → ℕ → BitVec 64 → BitVec 64 → TdpState → Option TdpState
  | 0, _, _, _, _ => none
  | fuel + 1, level, old_spte, new_spte, st =>
    let was_present := is_shadow_present_pte old_spte
    let is_present := is_shadow_present_pte new_spte
    let was_leaf := was_present && is_last_spte old_spte level
    let is_leaf := is_present && is_last_spte new_spte level
    let pfn_changed := spte_to_pfn old_spte != spte_to_pfn new_spte
    if was_leaf && is_leaf && pfn_changed then none
    else if old_spte = new_spte then some st
    else if !was_present && !is_present then some st
    else do
      let st ← if is_leaf != was_leaf then
          kvm_update_page_stats st level (if is_leaf then 1 else -1)
        else some st
      if was_present && !was_leaf && (is_leaf || !is_present || pfn_changed) then
        handle_removed_pt sptep_to_sp shared (handle_changed_spte fuel)
          (spte_to_child_pt mm old_spte level) st
      else some st

end Change

/-- `tdp_mmu_set_spte_atomic`. -/
def tdp_mmu_set_spte_atomic (mm : Mm) (sptep_to_sp : ℕ → Option KvmMmuPage) (fuel : ℕ)
    (st : TdpState) (sptep : Sptep) (old_spte : BitVec 64) (level : ℕ) (new_spte : BitVec 64) :
    Option (ℤ × TdpState) := do
  let (_, m) ← compare_exchange st.m sptep new_spte old_spte
  let st ← handle_changed_spte mm sptep_to_sp true fuel level old_spte new_spte { st with m := m }
  some (0, st)

/-- `tdp_mmu_set_spte`. -/
def tdp_mmu_set_spte (mm : Mm) (masks : SpteMasks) (sptep_to_sp : ℕ → Option KvmMmuPage)
    (fuel : ℕ) (st : TdpState) (sptep : Sptep) (old_spte new_spte : BitVec 64) (level : ℕ) :
    Option (BitVec 64 × TdpState) := do
  let (old_spte, m) ← kvm_tdp_mmu_write_spte masks st.m sptep old_spte new_spte level
  let st ← handle_changed_spte mm sptep_to_sp false fuel level old_spte new_spte { st with m := m }
  some (old_spte, st)

/-! ## The leaves of a tree -/

/-- A present leaf of level `level`. -/
def is_leaf_spte (spte : BitVec 64) (level : ℕ) : Bool :=
  is_shadow_present_pte spte && is_last_spte spte level

/-- The number of present leaves of level `l` that can be reached from a table of level `level`. -/
def leaves (mm : Mm) (m : PtMem) (level pt l : ℕ) : ℕ :=
  ((radix mm m).preorder level pt 0).countP fun e =>
    e.level = l && is_leaf_spte (m.entry e.node e.idx) e.level

/-- The tables below `pt` are there and form a tree, `sptep_to_sp` knows the level of each, no
entry is frozen, and leaves are at levels 1 to 3. -/
structure TdpTree (mm : Mm) (sptep_to_sp : ℕ → Option KvmMmuPage) (m : PtMem) (level pt : ℕ) :
    Prop where
  tree : PageTree mm m level pt
  owner : ∀ p t, (radix mm m).nodeAt level pt p = some t →
    ∃ sp, sptep_to_sp t = some sp ∧ sp.role.level = level - p.length
  not_frozen : ∀ p t i, (radix mm m).nodeAt level pt p = some t → i < 512 →
    m.entry t i ≠ REMOVED_SPTE
  leaf_level : ∀ p t i, (radix mm m).nodeAt level pt p = some t → i < 512 →
    is_leaf_spte (m.entry t i) (level - p.length) = true → level - p.length ≤ 3

/-- The values an entry of level `level` in the table `pt` is replaced by: a non-present one, a leaf
that keeps the frame of an old leaf, or the entry of another table, which is empty. -/
inductive NewSpte (mm : Mm) (m : PtMem) (pt level : ℕ) (old_spte new_spte : BitVec 64) : Prop where
  | non_present (h : is_shadow_present_pte new_spte = false)
  | leaf (h : is_leaf_spte new_spte level = true) (hlevel : level ≤ 3)
      (hpfn : is_leaf_spte old_spte level = true → spte_to_pfn new_spte = spte_to_pfn old_spte)
  | table (hpresent : is_shadow_present_pte new_spte = true)
      (hlast : is_last_spte new_spte level = false) (t : ℕ)
      (ht : mm.virt (new_spte &&& SPTE_BASE_ADDR_MASK) = t) (hne : t ≠ pt)
      (hempty : ∀ i, is_shadow_present_pte (m.entry t i) = false)

/-! ## Stores and entries -/

variable {mm : Mm} {m m' : PtMem} {sptep_to_sp : ℕ → Option KvmMmuPage}

theorem write_spt_ne {sptep : Sptep} {t : ℕ} (h : t ≠ sptep.pt) (spte : BitVec 64) :
    (m.write sptep spte).spt t = m.spt t :=
  if_neg h

theorem entry_congr {t : ℕ} (h : m'.spt t = m.spt t) (i : ℕ) : m'.entry t i = m.entry t i := by
  unfold PtMem.entry kvm_tdp_mmu_read_spte
  rw [h]

theorem write_isSome (sptep : Sptep) (spte : BitVec 64) {t : ℕ} (h : (m.spt t).isSome) :
    ((m.write sptep spte).spt t).isSome := by
  unfold PtMem.write
  dsimp only
  split
  · rwa [Option.isSome_map]
  · exact h

theorem write_entry_self {pt i : ℕ} (h : (m.spt pt).isSome) (hi : i < 512) (spte : BitVec 64) :
    (m.write ⟨pt, i⟩ spte).entry pt i = spte := by
  obtain ⟨t, ht⟩ := Option.isSome_iff_exists.mp h
  simp [PtMem.entry, kvm_tdp_mmu_read_spte, PtMem.write, hi, ht]

theorem write_entry_ne {pt i t j : ℕ} (h : t = pt → j ≠ i) (spte : BitVec 64) :
    (m.write ⟨pt, i⟩ spte).entry t j = m.entry t j := by
  by_cases ht : t = pt
  · subst ht
    have hj := h rfl
    unfold PtMem.entry kvm_tdp_mmu_read_spte PtMem.write
    by_cases hj512 : j < 512
    · cases hspt : m.spt t with
      | none => simp [hspt]
      | some e => simp [hj512, hspt, hj]
    · simp [hj512]
  · exact entry_congr (write_spt_ne ht spte) j

/-! ## Counting leaves -/

/-- The weight of an entry in the count of the leaves of level `l`. -/
def leafWeight (m : PtMem) (l level t i : ℕ) : ℤ :=
  if level = l ∧ is_leaf_spte (m.entry t i) level = true then 1 else 0

/-- The leaves of level `l` at and below an entry of level `level` with the value `spte`. -/
def spte_leaves (mm : Mm) (m : PtMem) (l level : ℕ) (spte : BitVec 64) : ℤ :=
  if is_shadow_present_pte spte = false then 0
  else if is_last_spte spte level then if level = l then 1 else 0
  else (radix mm m).total (leafWeight m l) (level - 1) (mm.virt (spte &&& SPTE_BASE_ADDR_MASK))

theorem child_of_spte {level t i : ℕ} (hp : is_shadow_present_pte (m.entry t i) = true)
    (hl : is_last_spte (m.entry t i) level = false) :
    (radix mm m).child level t i = some (mm.virt (m.entry t i &&& SPTE_BASE_ADDR_MASK)) := by
  simp [radix, hp, hl]

theorem no_child_of_spte {level t i : ℕ} (h : is_shadow_present_pte (m.entry t i) = false ∨
    is_last_spte (m.entry t i) level = true) : (radix mm m).child level t i = none := by
  rcases h with h | h
  · simp [radix, h]
  · simp [radix, h]

theorem part_eq_spte_leaves (l level t i : ℕ) :
    (radix mm m).part (leafWeight m l) level t i =
      spte_leaves mm m l level (m.entry t i) := by
  unfold Radix.part spte_leaves
  cases hp : is_shadow_present_pte (m.entry t i) with
  | false =>
    rw [no_child_of_spte (Or.inl hp)]
    simp [leafWeight, is_leaf_spte, hp]
  | true =>
    cases hl : is_last_spte (m.entry t i) level with
    | true =>
      rw [no_child_of_spte (Or.inr hl)]
      simp [leafWeight, is_leaf_spte, hp, hl]
    | false =>
      rw [child_of_spte hp hl]
      simp [leafWeight, is_leaf_spte, hp, hl]

theorem spte_leaves_leaf (l : ℕ) {level : ℕ} {spte : BitVec 64}
    (hp : is_shadow_present_pte spte = true) (hl : is_last_spte spte level = true) :
    spte_leaves mm m l level spte = if level = l then 1 else 0 := by
  simp [spte_leaves, hp, hl]

theorem spte_leaves_table (l : ℕ) {level : ℕ} {spte : BitVec 64}
    (hp : is_shadow_present_pte spte = true) (hl : is_last_spte spte level = false) :
    spte_leaves mm m l level spte = (radix mm m).total (leafWeight m l) (level - 1)
      (mm.virt (spte &&& SPTE_BASE_ADDR_MASK)) := by
  simp [spte_leaves, hp, hl]

/-- Tables that hold the same leave the tree above them as it is. -/
theorem sameBelow_of_spt {level pt : ℕ} (l : ℕ)
    (h : ∀ p t, (radix mm m).nodeAt level pt p = some t → m'.spt t = m.spt t) :
    Radix.SameBelow (radix mm m) (radix mm m') (leafWeight m l) (leafWeight m' l) level pt := by
  intro p t hp i _
  have hentry := entry_congr (h p t hp) i
  unfold radix leafWeight
  simp only [hentry, and_self]

/-- The tables below an entry. -/
def Below (mm : Mm) (m : PtMem) (level : ℕ) (spte : BitVec 64) (t : ℕ) : Prop :=
  is_shadow_present_pte spte = true ∧ is_last_spte spte level = false ∧
    ∃ p, (radix mm m).nodeAt (level - 1) (mm.virt (spte &&& SPTE_BASE_ADDR_MASK)) p = some t

/-- The tables below an entry are those on the paths through it. -/
theorem below_entry {level pt i t : ℕ} (hi : i < 512) (h : Below mm m level (m.entry pt i) t) :
    ∃ p, (radix mm m).nodeAt level pt (i :: p) = some t := by
  obtain ⟨hp, hl, p, hnode⟩ := h
  exact ⟨p, by rw [Radix.nodeAt_cons hi (child_of_spte hp hl), hnode]⟩

theorem spte_leaves_congr (l : ℕ) {level : ℕ} {spte : BitVec 64}
    (h : ∀ t, Below mm m level spte t → m'.spt t = m.spt t) :
    spte_leaves mm m' l level spte = spte_leaves mm m l level spte := by
  cases hp : is_shadow_present_pte spte with
  | false =>
    unfold spte_leaves
    rw [if_pos hp, if_pos hp]
  | true =>
    cases hl : is_last_spte spte level with
    | true => rw [spte_leaves_leaf l hp hl, spte_leaves_leaf l hp hl]
    | false =>
      rw [spte_leaves_table l hp hl, spte_leaves_table l hp hl]
      exact Radix.total_congr (sameBelow_of_spt l fun p t hnode => h t ⟨hp, hl, p, hnode⟩)

theorem below_congr {level : ℕ} {spte : BitVec 64}
    (h : ∀ t, Below mm m level spte t → m'.spt t = m.spt t) {t : ℕ}
    (ht : Below mm m' level spte t) : Below mm m level spte t := by
  obtain ⟨hp, hl, p, hnode⟩ := ht
  refine ⟨hp, hl, p, ?_⟩
  rw [← hnode]
  exact ((sameBelow_of_spt 0 fun q u hq => h u ⟨hp, hl, q, hq⟩).nodeAt p).symm

/-- A table without present entries has no leaves. -/
theorem total_empty (l level t : ℕ) (h : ∀ i, is_shadow_present_pte (m.entry t i) = false) :
    (radix mm m).total (leafWeight m l) level t = 0 := by
  cases level with
  | zero => rfl
  | succ level =>
    rw [Radix.total_succ]
    refine Finset.sum_eq_zero fun i _ => ?_
    rw [part_eq_spte_leaves, spte_leaves, if_pos (h i)]

/-! ## Trees -/

/-- A tree whose tables hold the same is a tree. -/
theorem TdpTree.congr {level pt : ℕ} (h : TdpTree mm sptep_to_sp m level pt)
    (hsame : ∀ p t, (radix mm m).nodeAt level pt p = some t → m'.spt t = m.spt t) :
    TdpTree mm sptep_to_sp m' level pt := by
  have hnode : ∀ p, (radix mm m').nodeAt level pt p = (radix mm m).nodeAt level pt p :=
    (sameBelow_of_spt 0 hsame).nodeAt
  refine ⟨⟨?_, ?_⟩, ?_, ?_, ?_⟩
  · intro p t hp
    rw [hnode] at hp
    rw [hsame p t hp]
    exact h.tree.allocated p t hp
  · intro p q t hp hq
    rw [hnode] at hp hq
    exact h.tree.distinct p q t hp hq
  · intro p t hp
    rw [hnode] at hp
    exact h.owner p t hp
  · intro p t i hp hi
    rw [hnode] at hp
    rw [entry_congr (hsame p t hp)]
    exact h.not_frozen p t i hp hi
  · intro p t i hp hi
    rw [hnode] at hp
    rw [entry_congr (hsame p t hp)]
    exact h.leaf_level p t i hp hi

/-- What a tree says about the value of one entry of level `level`. -/
structure SpteTree (mm : Mm) (sptep_to_sp : ℕ → Option KvmMmuPage) (m : PtMem) (level : ℕ)
    (spte : BitVec 64) : Prop where
  leaf : is_leaf_spte spte level = true → level ≤ 3
  table : is_shadow_present_pte spte = true → is_last_spte spte level = false →
    TdpTree mm sptep_to_sp m (level - 1) (mm.virt (spte &&& SPTE_BASE_ADDR_MASK))

theorem SpteTree.congr {level : ℕ} {spte : BitVec 64} (h : SpteTree mm sptep_to_sp m level spte)
    (hsame : ∀ t, Below mm m level spte t → m'.spt t = m.spt t) :
    SpteTree mm sptep_to_sp m' level spte :=
  ⟨h.leaf, fun hp hl => (h.table hp hl).congr fun p t hnode => hsame t ⟨hp, hl, p, hnode⟩⟩

/-- The subtree at an entry of a table of the tree. -/
theorem TdpTree.spte {level pt t i : ℕ} {p : List ℕ} (h : TdpTree mm sptep_to_sp m level pt)
    (hp : (radix mm m).nodeAt level pt p = some t) (hi : i < 512) :
    SpteTree mm sptep_to_sp m (level - p.length) (m.entry t i) := by
  refine ⟨h.leaf_level p t i hp hi, fun hpresent hlast => ?_⟩
  have hchild : (radix mm m).child (level - p.length) t i =
      some (mm.virt (m.entry t i &&& SPTE_BASE_ADDR_MASK)) := child_of_spte hpresent hlast
  have hpath : ∀ q u,
      (radix mm m).nodeAt (level - p.length - 1) (mm.virt (m.entry t i &&& SPTE_BASE_ADDR_MASK)) q =
        some u → (radix mm m).nodeAt level pt (p ++ i :: q) = some u := by
    intro q u hq
    rw [Radix.nodeAt_append, hp, Option.bind_some, Radix.nodeAt_cons hi hchild, hq]
  have hlen : ∀ q : List ℕ, level - (p ++ i :: q).length = level - p.length - 1 - q.length := by
    intro q
    rw [List.length_append, List.length_cons]
    omega
  refine ⟨⟨fun q u hq => h.tree.allocated _ u (hpath q u hq), ?_⟩, ?_, ?_, ?_⟩
  · intro q r u hq hr
    have heq := h.tree.distinct _ _ u (hpath q u hq) (hpath r u hr)
    exact (List.cons.inj (List.append_cancel_left heq)).2
  · intro q u hq
    rw [← hlen]
    exact h.owner _ u (hpath q u hq)
  · intro q u j hq hj
    exact h.not_frozen _ u j (hpath q u hq) hj
  · intro q u j hq hj
    rw [← hlen]
    exact h.leaf_level _ u j (hpath q u hq) hj

/-! ## A changed entry -/

/-- What becomes of a state when the subtree of `old_spte` goes and `new_spte` comes. -/
structure Changed (mm : Mm) (level : ℕ) (old_spte new_spte : BitVec 64) (st st' : TdpState) :
    Prop where
  pages : ∀ l : Fin 3, st'.pages l = st.pages l - spte_leaves mm st.m (l + 1) level old_spte +
    if level = l + 1 ∧ is_leaf_spte new_spte level = true then 1 else 0
  frame : ∀ t, ¬ Below mm st.m level old_spte t → st'.m.spt t = st.m.spt t
  entries : ∀ t i, st'.m.entry t i = st.m.entry t i ∨ st'.m.entry t i = REMOVED_SPTE

section Spec

variable {shared : Bool} {fuel level : ℕ} {old_spte new_spte : BitVec 64} {st : TdpState}

end Spec

/-! ## The loop over a removed table -/

/-- From entry `i` on the table and all below it are as they were at the start. -/
structure Rest (mm : Mm) (m m' : PtMem) (level pt i : ℕ) : Prop where
  here : (m'.spt pt).isSome
  entries : ∀ j, i ≤ j → m'.entry pt j = m.entry pt j
  below : ∀ j p t, i ≤ j → (radix mm m).nodeAt level pt (j :: p) = some t → m'.spt t = m.spt t

/-- What a round for an entry does to the table it stands in. -/
theorem remove_entry_read (shared : Bool) {st : TdpState} {pt i : ℕ} (hi : i < 512)
    (hpt : (st.m.spt pt).isSome) (hfrozen : st.m.entry pt i ≠ REMOVED_SPTE)
    (changed : ℕ → BitVec 64 → BitVec 64 → TdpState → Option TdpState) (level : ℕ) :
    ∃ m₁, remove_entry shared changed level pt st i =
        changed level (st.m.entry pt i) REMOVED_SPTE { st with m := m₁ } ∧
      (∀ t, t ≠ pt → m₁.spt t = st.m.spt t) ∧ (m₁.spt pt).isSome ∧
      (∀ j, j ≠ i → m₁.entry pt j = st.m.entry pt j) ∧
      ∀ t j, m₁.entry t j = st.m.entry t j ∨ m₁.entry t j = REMOVED_SPTE := by
  have hread := read_spte hpt hi
  have hnot : is_removed_spte (st.m.entry pt i) = false := by
    unfold is_removed_spte
    rwa [beq_eq_false_iff_ne]
  cases shared with
  | true =>
    refine ⟨st.m.write ⟨pt, i⟩ REMOVED_SPTE, ?_, fun t ht => write_spt_ne ht _,
      write_isSome _ _ hpt, fun j hj => write_entry_ne (fun _ => hj) _, fun t j => ?_⟩
    · simp [remove_entry, freeze_spte, kvm_tdp_mmu_write_spte_atomic, hread, hnot]
    · by_cases hsame : t = pt ∧ j = i
      · rw [hsame.1, hsame.2]
        exact Or.inr (write_entry_self hpt hi _)
      · exact Or.inl (write_entry_ne (fun ht hj => hsame ⟨ht, hj⟩) _)
  | false =>
    refine ⟨st.m, ?_, fun _ _ => rfl, hpt, fun _ _ => rfl, fun _ _ => Or.inl rfl⟩
    simp [remove_entry, hread]

section Loop

variable (shared : Bool) {level pt : ℕ}
  {changed : ℕ → BitVec 64 → BitVec 64 → TdpState → Option TdpState}

/-- **One round** takes the leaves at and below its entry off the counts, and leaves the later
entries alone. -/
theorem remove_entry_spec (h : TdpTree mm sptep_to_sp m level pt) {i : ℕ} (hi : i < 512)
    (hchanged : ∀ (old_spte : BitVec 64) (st : TdpState),
      SpteTree mm sptep_to_sp st.m level old_spte →
      ∃ st', changed level old_spte REMOVED_SPTE st = some st' ∧
        Changed mm level old_spte REMOVED_SPTE st st')
    {st : TdpState} (hrest : Rest mm m st.m level pt i) :
    ∃ st', remove_entry shared changed level pt st i = some st' ∧
      Rest mm m st'.m level pt (i + 1) ∧
      (∀ l : Fin 3, st'.pages l = st.pages l - spte_leaves mm m (l + 1) level (m.entry pt i)) ∧
      (∀ t, (∀ p, (radix mm m).nodeAt level pt p ≠ some t) → st'.m.spt t = st.m.spt t) ∧
      ∀ t j, st'.m.entry t j = st.m.entry t j ∨ st'.m.entry t j = REMOVED_SPTE := by
  have hold : st.m.entry pt i = m.entry pt i := hrest.entries i (Nat.le_refl i)
  obtain ⟨m₁, hround, hother, hpt₁, hlater, hentries⟩ :=
    remove_entry_read shared hi hrest.here
      (by rw [hold]; exact h.not_frozen [] pt i rfl hi) changed level
  -- the tables below the entry are neither this one nor below another entry
  have hbelow : ∀ t, Below mm m level (m.entry pt i) t → t ≠ pt ∧ m₁.spt t = m.spt t := by
    intro t ht
    obtain ⟨p, hp⟩ := below_entry hi ht
    have hne : t ≠ pt := by
      rintro rfl
      cases h.tree.distinct (i :: p) [] t hp rfl
    exact ⟨hne, (hother t hne).trans (hrest.below i p t (Nat.le_refl i) hp)⟩
  have htree : SpteTree mm sptep_to_sp m₁ level (m.entry pt i) :=
    (h.spte (p := []) rfl hi).congr fun t ht => (hbelow t ht).2
  obtain ⟨st', hst', hch⟩ := hchanged (m.entry pt i) { st with m := m₁ } htree
  have hframe : ∀ t, ¬ Below mm m level (m.entry pt i) t → st'.m.spt t = m₁.spt t := fun t ht =>
    hch.frame t fun hb => ht (below_congr (fun u hu => (hbelow u hu).2) hb)
  have hptframe : st'.m.spt pt = m₁.spt pt := hframe pt fun hb => (hbelow pt hb).1 rfl
  refine ⟨st', ?_, ⟨?_, ?_, ?_⟩, ?_, ?_, ?_⟩
  · rw [hround, hold, hst']
  · rwa [hptframe]
  · intro j hj
    rw [entry_congr hptframe, hlater j (by omega), hrest.entries j (by omega)]
  · intro j p t hj hp
    have hne : t ≠ pt := by
      rintro rfl
      cases h.tree.distinct (j :: p) [] t hp rfl
    have hnot : ¬ Below mm m level (m.entry pt i) t := by
      intro hb
      obtain ⟨q, hq⟩ := below_entry hi hb
      have hij : j = i := (List.cons.inj (h.tree.distinct (j :: p) (i :: q) t hp hq)).1
      omega
    rw [hframe t hnot, hother t hne, hrest.below j p t (by omega) hp]
  · intro l
    rw [hch.pages l, spte_leaves_congr _ fun t ht => (hbelow t ht).2]
    have hnew : is_leaf_spte REMOVED_SPTE level = false := by simp [is_leaf_spte]
    simp [hnew]
  · intro t ht
    have hne : t ≠ pt := by
      rintro rfl
      exact ht [] rfl
    have hnot : ¬ Below mm m level (m.entry pt i) t := by
      intro hb
      obtain ⟨q, hq⟩ := below_entry hi hb
      exact ht (i :: q) hq
    rw [hframe t hnot, hother t hne]
  · intro t j
    rcases hch.entries t j with heq | heq
    · rcases hentries t j with heq' | heq'
      · exact Or.inl (heq.trans heq')
      · exact Or.inr (heq.trans heq')
    · exact Or.inr heq

end Loop

/-! ## The whole recursion -/

/-- What `handle_changed_spte` is called for: a leaf comes at levels 1 to 3 only and in place of a
leaf of the same frame, and a table does not give way to an entry of the same frame that is a table
again. -/
structure Replaces (level : ℕ) (old_spte new_spte : BitVec 64) : Prop where
  leaf_level : is_leaf_spte new_spte level = true → level ≤ 3
  pfn : is_leaf_spte old_spte level = true → is_leaf_spte new_spte level = true →
    spte_to_pfn new_spte = spte_to_pfn old_spte
  table : is_shadow_present_pte old_spte = true → is_last_spte old_spte level = false →
    is_leaf_spte new_spte level = true ∨ is_shadow_present_pte new_spte = false ∨
      spte_to_pfn old_spte ≠ spte_to_pfn new_spte

theorem Replaces.non_present {level : ℕ} {old_spte new_spte : BitVec 64}
    (h : is_shadow_present_pte new_spte = false) : Replaces level old_spte new_spte := by
  have hleaf : is_leaf_spte new_spte level = false := by simp [is_leaf_spte, h]
  refine ⟨fun hl => ?_, fun _ hl => ?_, fun _ _ => Or.inr (Or.inl h)⟩
  · rw [hleaf] at hl
    cases hl
  · rw [hleaf] at hl
    cases hl

section Counted

variable {root_level root pt i : ℕ} {p : List ℕ} {new_spte : BitVec 64}

/-- The entry of an empty table stands for no leaves. -/
theorem spte_leaves_empty (l : ℕ) {level t : ℕ} {spte : BitVec 64}
    (hp : is_shadow_present_pte spte = true) (hl : is_last_spte spte level = false)
    (ht : mm.virt (spte &&& SPTE_BASE_ADDR_MASK) = t)
    (hempty : ∀ i, is_shadow_present_pte (m.entry t i) = false) :
    spte_leaves mm m l level spte = 0 := by
  rw [spte_leaves_table l hp hl, ht, total_empty l _ t hempty]

/-- What a new value stands for once it is stored and the old subtree is gone: itself, if it is a
leaf. -/
theorem NewSpte.spte_leaves {level : ℕ} {old_spte : BitVec 64}
    (h : NewSpte mm m pt level old_spte new_spte)
    (hentries : ∀ t j, t ≠ pt → m'.entry t j = m.entry t j ∨ m'.entry t j = REMOVED_SPTE) (l : ℕ) :
    Tdp.spte_leaves mm m' l level new_spte =
      if level = l ∧ is_leaf_spte new_spte level = true then 1 else 0 := by
  cases h with
  | non_present h => simp [Tdp.spte_leaves, is_leaf_spte, h]
  | leaf h hlevel hpfn =>
    obtain ⟨hp, hl⟩ : is_shadow_present_pte new_spte = true ∧ is_last_spte new_spte level = true := by
      simpa [is_leaf_spte] using h
    rw [spte_leaves_leaf l hp hl, h]
    simp
  | table hpresent hlast t ht hne hempty =>
    have hempty' : ∀ j, is_shadow_present_pte (m'.entry t j) = false := by
      intro j
      rcases hentries t j hne with heq | heq
      · rw [heq, hempty j]
      · rw [heq, is_shadow_present_pte_removed]
    rw [spte_leaves_empty l hpresent hlast ht hempty']
    simp [is_leaf_spte, hlast]

end Counted

/-! ### A table with one huge page -/

end Svmx.Tdp
