/-
What the TDP iterator visits.

The page tables below a root, read through `spte_to_child_pt`, are a radix tree (`radix`). With
the huge-page macros taken as exact numbers, `for_each_tdp_pte_min_level` lists the pre-order of
that tree, cut to the levels from `min_level` up and to the entries that meet `[start, end)`.

`At` says where an iterator stands: the page tables of its path, the entry and its gfn. One lemma
for each of the three steps keeps it, and `walk_table` runs them through a page table and all that
is below it, for any list `K` that the walk produces once the table is left.
-/
import Mathlib.Tactic.Common
import Mathlib.Tactic.Ring
import Svmx.Radix
import Svmx.TdpIter

set_option autoImplicit false

namespace Svmx.Tdp

/-! ## Page tables as a radix tree -/

/-- The entry of a page table, `0` where there is none. -/
def PtMem.entry (m : PtMem) (pt i : ℕ) : BitVec 64 := (kvm_tdp_mmu_read_spte m ⟨pt, i⟩).getD 0

/-- The page tables as a radix tree: present entries that are no leaves lead on. -/
def radix (mm : Mm) (m : PtMem) : Radix ℕ 512 where
  child level pt i :=
    if is_shadow_present_pte (m.entry pt i) && !is_last_spte (m.entry pt i) level then
      some (mm.virt (m.entry pt i &&& SPTE_BASE_ADDR_MASK))
    else none
  child_one := by
    intro n i
    simp [is_last_spte, PG_LEVEL_4K]

/-- Every page table below `pt` is there. -/
def Allocated (mm : Mm) (m : PtMem) (level pt : ℕ) : Prop :=
  ∀ p t, (radix mm m).nodeAt level pt p = some t → (m.spt t).isSome

/-- The page tables below `root` are there and form a tree: no two paths lead to one table. -/
structure PageTree (mm : Mm) (m : PtMem) (level root : ℕ) : Prop where
  allocated : Allocated mm m level root
  distinct : ∀ p q t, (radix mm m).nodeAt level root p = some t →
    (radix mm m).nodeAt level root q = some t → p = q

variable {mm : Mm} {m : PtMem}

theorem Allocated.self {level pt : ℕ} (h : Allocated mm m level pt) : (m.spt pt).isSome :=
  h [] pt rfl

theorem Allocated.child {level pt i c : ℕ} (h : Allocated mm m level pt) (hi : i < 512)
    (hc : (radix mm m).child level pt i = some c) : Allocated mm m (level - 1) c := by
  intro p t hp
  refine h (i :: p) t ?_
  simp [Radix.nodeAt, hi, hc, hp]

theorem ne_null {pt : ℕ} (h : (m.spt pt).isSome) : pt ≠ 0 := by
  rintro rfl
  rw [m.spt_null] at h
  simp at h

theorem read_spte {pt i : ℕ} (h : (m.spt pt).isSome) (hi : i < 512) :
    kvm_tdp_mmu_read_spte m ⟨pt, i⟩ = some (m.entry pt i) := by
  obtain ⟨t, ht⟩ := Option.isSome_iff_exists.1 h
  simp [PtMem.entry, kvm_tdp_mmu_read_spte, hi, ht]

/-- `spte_to_child_pt` follows the radix tree, with `NULL` for the end. -/
theorem spte_to_child_pt_radix (level pt i : ℕ) :
    spte_to_child_pt mm (m.entry pt i) level = ((radix mm m).child level pt i).getD 0 := by
  rw [spte_to_child_pt, spte_to_pfn_shift]
  simp only [radix]
  by_cases hp : is_shadow_present_pte (m.entry pt i) = true <;>
    by_cases hl : is_last_spte (m.entry pt i) level = true <;>
    simp [hp, hl]

/-! ## Indices and rounding -/

theorem spte_index_eq (gfn l : ℕ) (h : gfn < 2 ^ 52) :
    SPTE_INDEX (gfn_to_gpa gfn) (l + 1) = gfn / 512 ^ l % 512 := by
  have hlt : gfn * 4096 < 2 ^ 64 := by omega
  have hpow : 2 ^ (PAGE_SHIFT + (l + 1 - 1) * 9) = 512 ^ l * 4096 := by
    rw [Nat.add_sub_cancel, PAGE_SHIFT, Nat.pow_add, Nat.mul_comm l 9, Nat.pow_mul]
    ring
  rw [SPTE_INDEX, gfn_to_gpa, Nat.mod_eq_of_lt hlt, hpow, Nat.mul_div_mul_right _ _ (by omega)]

theorem round_exact (gfn l : ℕ) (h : gfn < 2 ^ 52) (hl : l ≤ 5) :
    gfn_round_for_level exactHpage gfn (l + 1) = gfn / 512 ^ l * 512 ^ l := by
  have hpow : (512 : ℕ) ^ l = 2 ^ (9 * l) := by rw [Nat.pow_mul]
  rw [gfn_round_for_level, exactHpage]
  simp only [Nat.add_sub_cancel]
  rw [hpow, and_high_mask 64 (9 * l) gfn (by omega), Nat.mod_eq_of_lt (by omega)]

/-- The index of an entry read off its gfn. -/
theorem entry_div (base i l : ℕ) (hbase : 512 ^ (l + 1) ∣ base) :
    (base + i * 512 ^ l) / 512 ^ l = base / 512 ^ l + i ∧ base / 512 ^ l % 512 = 0 := by
  have hpos : 0 < 512 ^ l := Nat.pow_pos (by omega)
  obtain ⟨c, rfl⟩ := hbase
  have hc : 512 ^ (l + 1) * c / 512 ^ l = 512 * c := by
    rw [Nat.pow_succ, Nat.mul_assoc, Nat.mul_div_cancel_left _ hpos]
  constructor
  · rw [Nat.add_mul_div_right _ _ hpos]
  · rw [hc]
    omega

theorem round_le (hp : Hpage) (gfn level : ℕ) : gfn_round_for_level hp gfn level ≤ gfn :=
  Nat.and_le_left

/-! ## Where an iterator stands -/

/-- The iterator stands at entry `i` of the page table `up l` of level `l + 1`, with gfn `g`;
`up` is its path from there to the root. -/
structure At (m : PtMem) (root_level : ℕ) (min_level : ℤ) (up : ℕ → ℕ) (l i g : ℕ)
    (it : TdpIter) : Prop where
  valid : it.valid = true
  yielded : it.yielded = false
  root : it.root_level = root_level
  min : it.min_level = min_level
  level : it.level = l + 1
  path : ∀ j, l ≤ j → it.pt_path j = up j
  gfn : it.gfn = g
  sptep : it.sptep = ⟨up l, i⟩
  spte : it.old_spte = m.entry (up l) i

section Steps

variable (hp : Hpage) {root_level : ℕ} {min_level : ℤ} {up : ℕ → ℕ} {l i g : ℕ} {it : TdpIter}

/-- `tdp_iter_refresh_sptep` puts the iterator on the entry of its gfn in the table of its path. -/
theorem tdp_iter_refresh_sptep_spec (it : TdpIter) (g : ℕ) (hv : it.valid = true) (hy : it.yielded = false)
    (hr : it.root_level = root_level) (hm : it.min_level = min_level) (hl : it.level = l + 1)
    (hpath : ∀ j, l ≤ j → it.pt_path j = up j) (hg : it.gfn = g) (hlt : g < 2 ^ 52)
    (halloc : (m.spt (up l)).isSome) :
    ∃ it', tdp_iter_refresh_sptep m it = some it' ∧
      At m root_level min_level up l (g / 512 ^ l % 512) g it' ∧
      it'.next_last_level_gfn = it.next_last_level_gfn := by
  have hidx : SPTE_INDEX (gfn_to_gpa it.gfn) it.level = g / 512 ^ l % 512 := by
    rw [hg, hl, spte_index_eq g l hlt]
  have hpt : it.pt_path (it.level - 1) = up l := by
    rw [hl, Nat.add_sub_cancel, hpath l (Nat.le_refl l)]
  have hread := read_spte halloc (Nat.mod_lt (g / 512 ^ l) (by omega : 512 > 0))
  refine ⟨{ it with
    sptep := ⟨up l, g / 512 ^ l % 512⟩
    old_spte := m.entry (up l) (g / 512 ^ l % 512) }, ?_, ?_, rfl⟩
  · simp only [tdp_iter_refresh_sptep, hidx, hpt, hread, Option.bind_eq_bind, Option.bind_some]
  · exact ⟨hv, hy, hr, hm, hl, hpath, hg, rfl, rfl⟩

/-- `try_step_side` inside a page table. -/
theorem At.try_step_side (h : At m root_level min_level up l i g it) (hlt : g < 2 ^ 52)
    (hidx : g / 512 ^ l % 512 ≠ 511) (hi : i + 1 < 512) (hpages : g + hp.pages (l + 1) < 2 ^ 64)
    (halloc : (m.spt (up l)).isSome) :
    ∃ it', Tdp.try_step_side hp m it = some (true, it') ∧
      At m root_level min_level up l (i + 1) (g + hp.pages (l + 1)) it' ∧
      it'.next_last_level_gfn = g + hp.pages (l + 1) := by
  have hg : (it.gfn + hp.pages it.level) % 2 ^ 64 = g + hp.pages (l + 1) := by
    rw [h.gfn, h.level, Nat.mod_eq_of_lt hpages]
  have hne : ¬ SPTE_INDEX (gfn_to_gpa it.gfn) it.level = SPTE_ENT_PER_PAGE - 1 := by
    rw [h.gfn, h.level, spte_index_eq g l hlt]
    exact hidx
  have hread := read_spte halloc hi
  refine ⟨{ it with
    gfn := g + hp.pages (l + 1)
    next_last_level_gfn := g + hp.pages (l + 1)
    sptep := ⟨up l, i + 1⟩
    old_spte := m.entry (up l) (i + 1) }, ?_, ?_, rfl⟩
  · rw [Tdp.try_step_side, if_neg hne]
    simp only [hg, h.sptep, hread, Option.bind_eq_bind, Option.bind_some]
  · exact ⟨h.valid, h.yielded, h.root, h.min, h.level, h.path, rfl, rfl, rfl⟩

/-- Past the last entry of the page, `try_step_side` reads outside it. -/
theorem At.try_step_side_fault (h : At m root_level min_level up l i g it) (hlt : g < 2 ^ 52)
    (hidx : g / 512 ^ l % 512 ≠ 511) (hi : ¬ i + 1 < 512) :
    Tdp.try_step_side hp m it = none := by
  have hne : ¬ SPTE_INDEX (gfn_to_gpa it.gfn) it.level = SPTE_ENT_PER_PAGE - 1 := by
    rw [h.gfn, h.level, spte_index_eq g l hlt]
    exact hidx
  rw [Tdp.try_step_side, if_neg hne]
  simp [h.sptep, kvm_tdp_mmu_read_spte, hi]

/-- `try_step_side` where the gfn is in the last entry of its table. -/
theorem At.try_step_side_last (h : At m root_level min_level up l i g it) (hlt : g < 2 ^ 52)
    (hidx : g / 512 ^ l % 512 = 511) : Tdp.try_step_side hp m it = some (false, it) := by
  rw [Tdp.try_step_side, if_pos]
  rw [h.gfn, h.level, spte_index_eq g l hlt]
  exact hidx

/-- `try_step_up` below the root. -/
theorem At.try_step_up (h : At m root_level min_level up l i g it) (hlt : g < 2 ^ 52)
    (hl : l + 1 ≠ root_level) (halloc : (m.spt (up (l + 1))).isSome) :
    ∃ it', Tdp.try_step_up hp m it = some (true, it') ∧
      At m root_level min_level up (l + 1) (gfn_round_for_level hp g (l + 2) / 512 ^ (l + 1) % 512)
        (gfn_round_for_level hp g (l + 2)) it' := by
  have hne : ¬ it.level = it.root_level := by
    rw [h.level, h.root]
    exact hl
  have hle := round_le hp g (l + 2)
  obtain ⟨it', hit, hat, -⟩ := tdp_iter_refresh_sptep_spec
    { it with
      level := it.level + 1
      gfn := gfn_round_for_level hp it.gfn (it.level + 1) }
    (gfn_round_for_level hp g (l + 2)) h.valid h.yielded h.root h.min (by simp only [h.level])
    (fun j hj => h.path j (by omega)) (by simp only [h.gfn, h.level]) (by omega) halloc
  refine ⟨it', ?_, hat⟩
  rw [Tdp.try_step_up, if_neg hne]
  simp only [hit, Option.bind_eq_bind, Option.bind_some]

/-- `try_step_up` at the root. -/
theorem At.try_step_up_root (h : At m root_level min_level up l i g it) (hl : l + 1 = root_level) :
    Tdp.try_step_up hp m it = some (false, it) := by
  rw [Tdp.try_step_up, if_pos]
  rw [h.level, h.root]
  exact hl

/-- `try_step_down` into a child table. -/
theorem At.try_step_down {c : ℕ} (h : At m root_level min_level up (l + 1) i g it)
    (hmin : ((l + 2 : ℕ) : ℤ) ≠ min_level) (halloc : (m.spt (up (l + 1))).isSome) (hi : i < 512)
    (hc : (radix mm m).child (l + 2) (up (l + 1)) i = some c) (hcalloc : (m.spt c).isSome)
    (hlt : it.next_last_level_gfn < 2 ^ 52) :
    ∃ it', Tdp.try_step_down hp mm m it = some (true, it') ∧
      At m root_level min_level (Function.update up l c) l
        (gfn_round_for_level hp it.next_last_level_gfn (l + 1) / 512 ^ l % 512)
        (gfn_round_for_level hp it.next_last_level_gfn (l + 1)) it' ∧
      it'.next_last_level_gfn = it.next_last_level_gfn := by
  have hne : ¬ (it.level : ℤ) = it.min_level := by
    rw [h.level, h.min]
    exact hmin
  have hread : kvm_tdp_mmu_read_spte m it.sptep = some (m.entry (up (l + 1)) i) := by
    rw [h.sptep, read_spte halloc hi]
  have hchild : spte_to_child_pt mm (m.entry (up (l + 1)) i) it.level = c := by
    rw [h.level, spte_to_child_pt_radix, hc, Option.getD_some]
  have hle := round_le hp it.next_last_level_gfn (l + 1)
  have hpath : ∀ j, l ≤ j →
      Function.update it.pt_path l c j = Function.update up l c j := by
    intro j hj
    by_cases hjl : j = l
    · subst hjl
      simp
    · rw [Function.update_of_ne hjl, Function.update_of_ne hjl, h.path j (by omega)]
  obtain ⟨it', hit, hat, hnl⟩ := tdp_iter_refresh_sptep_spec
    { it with
      old_spte := m.entry (up (l + 1)) i
      level := l + 1
      pt_path := Function.update it.pt_path l c
      gfn := gfn_round_for_level hp it.next_last_level_gfn (l + 1) }
    (gfn_round_for_level hp it.next_last_level_gfn (l + 1)) h.valid h.yielded h.root h.min rfl hpath rfl (by omega)
    (by rw [Function.update_self]; exact hcalloc)
  refine ⟨it', ?_, hat, hnl⟩
  rw [Tdp.try_step_down, if_neg hne, hread]
  simp only [Option.bind_eq_bind, Option.bind_some]
  rw [hchild, step_into_child, if_neg (ne_null hcalloc)]
  simp only [h.level, Nat.add_sub_cancel, hit, Option.bind_eq_bind, Option.bind_some]

/-- `try_step_down` at the lowest level of the walk or at an entry that leads nowhere. -/
theorem At.try_step_down_none (h : At m root_level min_level up l i g it)
    (halloc : (m.spt (up l)).isSome) (hi : i < 512)
    (hno : ((l + 1 : ℕ) : ℤ) = min_level ∨ (radix mm m).child (l + 1) (up l) i = none) :
    Tdp.try_step_down hp mm m it = some (false, it) := by
  by_cases hmin : (it.level : ℤ) = it.min_level
  · rw [Tdp.try_step_down, if_pos hmin]
  · have hc : (radix mm m).child (l + 1) (up l) i = none := by
      rcases hno with hno | hno
      · rw [h.level, h.min] at hmin
        exact absurd hno hmin
      · exact hno
    have hread : kvm_tdp_mmu_read_spte m it.sptep = some (m.entry (up l) i) := by
      rw [h.sptep, read_spte halloc hi]
    have hchild : spte_to_child_pt mm (m.entry (up l) i) it.level = 0 := by
      rw [h.level, spte_to_child_pt_radix, hc, Option.getD_none]
    rw [Tdp.try_step_down, if_neg hmin, hread]
    simp only [Option.bind_eq_bind, Option.bind_some]
    rw [hchild, step_into_child, if_pos rfl, ← h.spte]

end Steps

/-! ## Runs of the loop -/

/-- What an iterator shows at a visit: the entry it describes and the value it holds of it. -/
def view (it : TdpIter) : RadixEntry ℕ × BitVec 64 :=
  (⟨it.sptep.pt, it.sptep.idx, it.level, it.gfn⟩, it.old_spte)

section Runs

variable (hp : Hpage) (mm : Mm) (m : PtMem) (end_gfn : ℕ)

/-- From this iterator the loop ends and has visited `vs`. -/
def Walks (it : TdpIter) (vs : List (RadixEntry ℕ × BitVec 64)) : Prop :=
  ∃ n, ∀ fuel, n ≤ fuel → (for_each_tdp_pte hp mm m end_gfn fuel it).map (List.map view) = some vs

/-- From the side step of this iterator the loop ends and has visited `vs`. -/
def SideWalks (it : TdpIter) (vs : List (RadixEntry ℕ × BitVec 64)) : Prop :=
  ∃ it', step_side_or_up hp m (it.root_level - it.level + 1) it = some it' ∧
    Walks hp mm m end_gfn it' vs

variable {hp mm m end_gfn} {it it' it'' : TdpIter} {vs : List (RadixEntry ℕ × BitVec 64)}

theorem walks_stop (h : ¬ (it.valid = true ∧ it.gfn < end_gfn)) : Walks hp mm m end_gfn it [] := by
  refine ⟨1, fun fuel hfuel => ?_⟩
  obtain ⟨fuel, rfl⟩ : ∃ k, fuel = k + 1 := ⟨fuel - 1, by omega⟩
  have hc : (it.valid && decide (it.gfn < end_gfn)) = false := by
    simpa using h
  simp [for_each_tdp_pte, hc]

theorem walks_visit (hv : it.valid = true) (hlt : it.gfn < end_gfn)
    (hnext : tdp_iter_next hp mm m it = some it') (hw : Walks hp mm m end_gfn it' vs) :
    Walks hp mm m end_gfn it (view it :: vs) := by
  obtain ⟨n, hn⟩ := hw
  refine ⟨n + 1, fun fuel hfuel => ?_⟩
  obtain ⟨fuel, rfl⟩ : ∃ k, fuel = k + 1 := ⟨fuel - 1, by omega⟩
  have hc : (it.valid && decide (it.gfn < end_gfn)) = true := by
    simp [hv, hlt]
  obtain ⟨rest, hrest, hmap⟩ := Option.map_eq_some_iff.1 (hn fuel (by omega))
  simp [for_each_tdp_pte, hc, hnext, hrest, hmap]

theorem walks_down (hv : it.valid = true) (hy : it.yielded = false) (hlt : it.gfn < end_gfn)
    (hd : try_step_down hp mm m it = some (true, it')) (hw : Walks hp mm m end_gfn it' vs) :
    Walks hp mm m end_gfn it (view it :: vs) := by
  refine walks_visit hv hlt ?_ hw
  simp [tdp_iter_next, hy, hd]

theorem walks_side (hv : it.valid = true) (hy : it.yielded = false) (hlt : it.gfn < end_gfn)
    (hd : try_step_down hp mm m it = some (false, it)) (hw : SideWalks hp mm m end_gfn it vs) :
    Walks hp mm m end_gfn it (view it :: vs) := by
  obtain ⟨it', hit, hw⟩ := hw
  refine walks_visit hv hlt ?_ hw
  simp [tdp_iter_next, hy, hd, hit]

theorem sideWalks_side (hs : try_step_side hp m it = some (true, it'))
    (hw : Walks hp mm m end_gfn it' vs) : SideWalks hp mm m end_gfn it vs := by
  refine ⟨it', ?_, hw⟩
  simp [step_side_or_up, hs]

theorem sideWalks_up (hs : try_step_side hp m it = some (false, it))
    (hu : try_step_up hp m it = some (true, it')) (hlt : it.level < it.root_level)
    (hl : it'.level = it.level + 1) (hr : it'.root_level = it.root_level)
    (hw : SideWalks hp mm m end_gfn it' vs) : SideWalks hp mm m end_gfn it vs := by
  obtain ⟨it'', hit, hw⟩ := hw
  refine ⟨it'', ?_, hw⟩
  have hfuel : it.root_level - it.level = it'.root_level - it'.level + 1 := by omega
  rw [hfuel, step_side_or_up, hs]
  simp only [Option.bind_eq_bind, Option.bind_some, hu]
  exact hit

theorem sideWalks_end (hs : try_step_side hp m it = some (false, it))
    (hu : try_step_up hp m it = some (false, it)) : SideWalks hp mm m end_gfn it [] := by
  refine ⟨{ it with valid := false }, ?_, walks_stop (by simp)⟩
  simp [step_side_or_up, hs, hu]

end Runs

/-! ## The entries of a walk -/

/-- The entries that a walk from `start` to `end_gfn` is to visit. -/
def inWalk (min_level : ℤ) (start end_gfn : ℕ) (e : RadixEntry ℕ) : Bool :=
  decide (min_level ≤ e.level) && decide (e.key < end_gfn) &&
    decide (start < e.key + 512 ^ (e.level - 1))

/-- An entry with the value the tables hold of it. -/
def withSpte (m : PtMem) (e : RadixEntry ℕ) : RadixEntry ℕ × BitVec 64 :=
  (e, m.entry e.node e.idx)

section Cut

variable (T : Radix ℕ 512) {min_level : ℤ} {start end_gfn l n base i : ℕ}

/-- Nothing from index `i` on is in a walk that ends before it. -/
theorem filter_from_end (h : end_gfn ≤ base + i * 512 ^ l) :
    (T.preorderFrom l n base i).filter (inWalk min_level start end_gfn) = [] := by
  refine List.filter_eq_nil_iff.2 fun e he => ?_
  have := T.mem_preorderFrom_bounds l n base i e he
  simp only [inWalk, Bool.and_eq_true, decide_eq_true_eq]
  omega

/-- Nothing below the lowest level is in a walk. -/
theorem filter_below_min (h : ((l + 1 : ℕ) : ℤ) = min_level) :
    (T.below l n base i).filter (inWalk min_level start end_gfn) = [] := by
  refine List.filter_eq_nil_iff.2 fun e he => ?_
  have := (T.mem_below_bounds l n base i e he).2.2.2
  simp only [inWalk, Bool.and_eq_true, decide_eq_true_eq]
  omega

/-- The entries before `start` are not in a walk. -/
theorem filter_from_start (h : base + i * 512 ^ l ≤ start) (hi : i ≤ 512) :
    (T.preorderFrom l n base 0).filter (inWalk min_level start end_gfn) =
      (T.preorderFrom l n base i).filter (inWalk min_level start end_gfn) := by
  induction i with
  | zero => rfl
  | succ i ih =>
    have hpos : 0 < 512 ^ l := Nat.pow_pos (by omega)
    have hsucc : (i + 1) * 512 ^ l = i * 512 ^ l + 512 ^ l := by ring
    rw [ih (by omega) (by omega), T.preorderFrom_cons l n base i (by omega),
      List.filter_cons_of_neg, List.filter_append]
    · have hnil : (T.below l n base i).filter (inWalk min_level start end_gfn) = [] := by
        refine List.filter_eq_nil_iff.2 fun e he => ?_
        have := (T.mem_below_bounds l n base i e he).2.1
        simp only [inWalk, Bool.and_eq_true, decide_eq_true_eq]
        omega
      rw [hnil, List.nil_append]
    · simp only [inWalk, Bool.and_eq_true, decide_eq_true_eq, Nat.add_sub_cancel]
      omega

end Cut

/-! ## A page table and what is below it -/

section Exact

variable {root_level : ℕ} {min_level : ℤ} {start end_gfn : ℕ}

/-- The visits a walk makes from index `i` of a table of level `l + 1` on, up to its end. -/
def visitsFrom (mm : Mm) (m : PtMem) (min_level : ℤ) (start end_gfn l pt base i : ℕ) :
    List (RadixEntry ℕ × BitVec 64) :=
  (((radix mm m).preorderFrom l pt base i).filter (inWalk min_level start end_gfn)).map (withSpte m)

theorem At.view_eq {up : ℕ → ℕ} {l i g : ℕ} {it : TdpIter}
    (h : At m root_level min_level up l i g it) :
    view it = withSpte m ⟨up l, i, l + 1, g⟩ := by
  rw [view, withSpte, h.sptep, h.level, h.gfn, h.spte]

/-- **From the side step on.** After entry `i` the walk goes through the rest of the table, and
then on with `K`. -/
theorem side_from {up : ℕ → ℕ} {l i base : ℕ} {K : List (RadixEntry ℕ × BitVec 64)}
    (hbase : 512 ^ (l + 1) ∣ base) (hspace : base + 512 ^ (l + 1) ≤ 2 ^ 52) (hi : i < 512)
    (halloc : (m.spt (up l)).isSome)
    (hlast : ∀ it, At m root_level min_level up l 511 (base + 511 * 512 ^ l) it →
      SideWalks exactHpage mm m end_gfn it K)
    (hnext : i < 511 → ∀ it, At m root_level min_level up l (i + 1) (base + (i + 1) * 512 ^ l) it →
      it.next_last_level_gfn = it.gfn →
      Walks exactHpage mm m end_gfn it
        (visitsFrom mm m min_level start end_gfn l (up l) base (i + 1) ++ K))
    {it : TdpIter} (hat : At m root_level min_level up l i (base + i * 512 ^ l) it) :
    SideWalks exactHpage mm m end_gfn it
      (visitsFrom mm m min_level start end_gfn l (up l) base (i + 1) ++ K) := by
  obtain ⟨hdiv, hmod⟩ := entry_div base i l hbase
  have hpow : 512 ^ (l + 1) = 512 * 512 ^ l := by ring
  have hmul : i * 512 ^ l ≤ 511 * 512 ^ l := Nat.mul_le_mul_right _ (by omega)
  by_cases h511 : i = 511
  · subst h511
    have hnil : visitsFrom mm m min_level start end_gfn l (up l) base 512 = [] := by
      rw [visitsFrom, Radix.preorderFrom_end _ _ _ _ _ (Nat.le_refl 512)]
      rfl
    rw [hnil, List.nil_append]
    exact hlast it hat
  · have hpos : 0 < 512 ^ l := Nat.pow_pos (by omega)
    have hsucc : base + i * 512 ^ l + exactHpage.pages (l + 1) = base + (i + 1) * 512 ^ l := by
      change base + i * 512 ^ l + 512 ^ (l + 1 - 1) = _
      rw [Nat.add_sub_cancel]
      ring
    have hle : (i + 1) * 512 ^ l ≤ 511 * 512 ^ l := Nat.mul_le_mul_right _ (by omega)
    obtain ⟨it', hs, hat', hnl⟩ := hat.try_step_side exactHpage (by omega)
      (by rw [hdiv]; omega) (by omega) (by rw [hsucc]; omega) halloc
    rw [hsucc] at hat' hnl
    exact sideWalks_side hs (hnext (by omega) it' hat' (by rw [hnl, hat'.gfn]))

/-- The table above a table at entry `i` of its parent: the gfn rounds back to the entry. -/
theorem round_up (base i j l : ℕ) (hbase : 512 ^ (l + 2) ∣ base) (hi : i < 512) (hj : j < 512)
    (hl : l + 1 ≤ 5) (hspace : base + 512 ^ (l + 2) ≤ 2 ^ 52) :
    gfn_round_for_level exactHpage (base + i * 512 ^ (l + 1) + j * 512 ^ l) (l + 2) =
      base + i * 512 ^ (l + 1) := by
  have hpow : 512 ^ (l + 1) = 512 * 512 ^ l := by ring
  have hpow2 : 512 ^ (l + 2) = 512 * 512 ^ (l + 1) := by ring
  have hi' : i * 512 ^ (l + 1) ≤ 511 * 512 ^ (l + 1) := Nat.mul_le_mul_right _ (by omega)
  have hj' : j * 512 ^ l ≤ 511 * 512 ^ l := Nat.mul_le_mul_right _ (by omega)
  have hpos : 0 < 512 ^ l := Nat.pow_pos (by omega)
  have hpos1 : 0 < 512 ^ (l + 1) := Nat.pow_pos (by omega)
  rw [round_exact _ (l + 1) (by omega) hl]
  obtain ⟨c, rfl⟩ := hbase
  have hmul : 512 ^ (l + 2) * c + i * 512 ^ (l + 1) = (512 * c + i) * 512 ^ (l + 1) := by
    rw [hpow2]
    ring
  rw [hmul, Nat.mul_comm (512 * c + i), Nat.mul_add_div hpos1,
    Nat.div_eq_of_lt (by omega : j * 512 ^ l < 512 ^ (l + 1))]
  ring

/-- A gfn of a table rounds down to an entry of it. -/
theorem round_down (base n l : ℕ) (hbase : 512 ^ (l + 1) ∣ base) (hle : base ≤ n)
    (hlt : n < base + 512 ^ (l + 1)) (hn : n < 2 ^ 52) (hl : l ≤ 5) :
    ∃ j, j < 512 ∧ gfn_round_for_level exactHpage n (l + 1) = base + j * 512 ^ l ∧
      base + j * 512 ^ l ≤ n ∧ n < base + (j + 1) * 512 ^ l := by
  have hpos : 0 < 512 ^ l := Nat.pow_pos (by omega)
  have hpow : 512 ^ (l + 1) = 512 * 512 ^ l := by ring
  obtain ⟨c, rfl⟩ := hbase
  have hmul : 512 ^ (l + 1) * c = 512 ^ l * (512 * c) := by
    rw [hpow]
    ring
  obtain ⟨d, rfl⟩ := Nat.exists_eq_add_of_le hle
  have hd : d / 512 ^ l < 512 := by
    rw [Nat.div_lt_iff_lt_mul hpos]
    omega
  have hdm := Nat.div_add_mod d (512 ^ l)
  have hmod := Nat.mod_lt d hpos
  rw [Nat.mul_comm] at hdm
  have hsucc : (d / 512 ^ l + 1) * 512 ^ l = d / 512 ^ l * 512 ^ l + 512 ^ l := by ring
  refine ⟨d / 512 ^ l, hd, ?_, by omega, by omega⟩
  rw [round_exact _ l hn hl, hmul, Nat.mul_add_div hpos]
  ring

theorem At.congr {up up' : ℕ → ℕ} {l i g : ℕ} {it : TdpIter}
    (h : At m root_level min_level up l i g it) (hup : ∀ j, l ≤ j → up j = up' j) :
    At m root_level min_level up' l i g it := by
  refine ⟨h.valid, h.yielded, h.root, h.min, h.level, ?_, h.gfn, ?_, ?_⟩
  · intro j hj
    rw [h.path j hj, hup j hj]
  · rw [h.sptep, hup l (Nat.le_refl l)]
  · rw [h.spte, hup l (Nat.le_refl l)]

/-- The visits below entry `i` of a table of level `l + 1`. -/
def visitsBelow (mm : Mm) (m : PtMem) (min_level : ℤ) (start end_gfn l pt base i : ℕ) :
    List (RadixEntry ℕ × BitVec 64) :=
  (((radix mm m).below l pt base i).filter (inWalk min_level start end_gfn)).map (withSpte m)

/-- The iterator stands at entry `i` on its way to the first gfn of the walk in that entry. -/
def Arrives (m : PtMem) (root_level : ℕ) (min_level : ℤ) (up : ℕ → ℕ) (start l base i : ℕ)
    (it : TdpIter) : Prop :=
  At m root_level min_level up l i (base + i * 512 ^ l) it ∧
    it.next_last_level_gfn = max start it.gfn ∧ start < it.gfn + 512 ^ l

section Entries

variable {up : ℕ → ℕ} {l base : ℕ} {K : List (RadixEntry ℕ × BitVec 64)}
  (hmin : min_level ≤ ((l + 1 : ℕ) : ℤ)) (hbase : 512 ^ (l + 1) ∣ base)
  (hspace : base + 512 ^ (l + 1) ≤ 2 ^ 52) (halloc : (m.spt (up l)).isSome)
  (hK : end_gfn < base + 512 ^ (l + 1) → K = [])
  (hlast : ∀ it, At m root_level min_level up l 511 (base + 511 * 512 ^ l) it →
    SideWalks exactHpage mm m end_gfn it K)
  -- what the walk does below an entry that leads on
  (hdown : ∀ i it c K', i < 512 → Arrives m root_level min_level up start l base i it →
    ((l + 1 : ℕ) : ℤ) ≠ min_level → (radix mm m).child (l + 1) (up l) i = some c →
    it.gfn < end_gfn → (end_gfn < base + (i + 1) * 512 ^ l → K' = []) →
    (∀ it', At m root_level min_level up l i (base + i * 512 ^ l) it' →
      SideWalks exactHpage mm m end_gfn it' K') →
    Walks exactHpage mm m end_gfn it
      (view it :: (visitsBelow mm m min_level start end_gfn l (up l) base i ++ K')))

include hmin hbase hspace halloc hK hlast hdown

/-- One entry of a page table, given the walk from the next one. -/
theorem walk_entry {i : ℕ} {it : TdpIter} (hi : i < 512)
    (harr : Arrives m root_level min_level up start l base i it)
    (hnext : i < 511 → ∀ it', Arrives m root_level min_level up start l base (i + 1) it' →
      Walks exactHpage mm m end_gfn it'
        (visitsFrom mm m min_level start end_gfn l (up l) base (i + 1) ++ K)) :
    Walks exactHpage mm m end_gfn it
      (visitsFrom mm m min_level start end_gfn l (up l) base i ++ K) := by
  have hpow : 512 ^ (l + 1) = 512 * 512 ^ l := by ring
  have hpos : 0 < 512 ^ l := Nat.pow_pos (by omega)
  have hsucc : (i + 1) * 512 ^ l = i * 512 ^ l + 512 ^ l := by ring
  have hle : (i + 1) * 512 ^ l ≤ 512 * 512 ^ l := Nat.mul_le_mul_right _ (by omega)
  obtain ⟨hat, hnl, hstart⟩ := harr
  have hg := hat.gfn
  by_cases hlt : it.gfn < end_gfn
  · -- the visit itself
    have hsel : inWalk min_level start end_gfn ⟨up l, i, l + 1, base + i * 512 ^ l⟩ = true := by
      simp only [inWalk, Bool.and_eq_true, decide_eq_true_eq, Nat.add_sub_cancel]
      omega
    have hfrom : visitsFrom mm m min_level start end_gfn l (up l) base i ++ K =
        view it :: (visitsBelow mm m min_level start end_gfn l (up l) base i ++
          (visitsFrom mm m min_level start end_gfn l (up l) base (i + 1) ++ K)) := by
      rw [visitsFrom, Radix.preorderFrom_cons _ _ _ _ _ hi, List.filter_cons_of_pos hsel,
        List.filter_append, List.map_cons, List.map_append, hat.view_eq, List.cons_append,
        List.append_assoc]
      rfl
    have hside : ∀ it', At m root_level min_level up l i (base + i * 512 ^ l) it' →
        SideWalks exactHpage mm m end_gfn it'
          (visitsFrom mm m min_level start end_gfn l (up l) base (i + 1) ++ K) := by
      refine fun it' hat' => side_from hbase hspace hi halloc hlast ?_ hat'
      intro hi' it'' hat'' hnl''
      refine hnext hi' it'' ⟨hat'', ?_, ?_⟩
      · rw [hnl'', hat''.gfn]
        omega
      · rw [hat''.gfn]
        omega
    rw [hfrom]
    by_cases hend : ((l + 1 : ℕ) : ℤ) = min_level ∨ (radix mm m).child (l + 1) (up l) i = none
    · -- nothing is visited below the entry
      have hnil : visitsBelow mm m min_level start end_gfn l (up l) base i = [] := by
        rcases hend with hmin' | hc
        · rw [visitsBelow, filter_below_min _ hmin', List.map_nil]
        · rw [visitsBelow, Radix.below, hc]
          rfl
      rw [hnil, List.nil_append]
      exact walks_side hat.valid hat.yielded hlt (hat.try_step_down_none exactHpage halloc hi hend)
        (hside it hat)
    · -- the entries of the child come first
      rw [not_or] at hend
      obtain ⟨c, hc⟩ := Option.ne_none_iff_exists'.1 hend.2
      refine hdown i it c _ hi ⟨hat, hnl, hstart⟩ hend.1 hc hlt ?_ hside
      intro hlt'
      rw [hK (by omega), List.append_nil, visitsFrom, filter_from_end _ (by omega), List.map_nil]
  · have hnil : visitsFrom mm m min_level start end_gfn l (up l) base i ++ K = [] := by
      rw [hK (by omega), List.append_nil, visitsFrom, filter_from_end _ (by omega), List.map_nil]
    rw [hnil]
    exact walks_stop (by tauto)

/-- **The entries of a page table** from `i` on. -/
theorem walk_entries (k : ℕ) : ∀ i it, i + k = 511 →
    Arrives m root_level min_level up start l base i it →
    Walks exactHpage mm m end_gfn it
      (visitsFrom mm m min_level start end_gfn l (up l) base i ++ K) := by
  induction k with
  | zero =>
    intro i it hik harr
    exact walk_entry hmin hbase hspace halloc hK hlast hdown (by omega) harr
      (fun h => absurd h (by omega))
  | succ k ihk =>
    intro i it hik harr
    exact walk_entry hmin hbase hspace halloc hK hlast hdown (by omega) harr
      (fun _ it' harr' => ihk (i + 1) it' (by omega) harr')

end Entries

/-- **A page table.** From an entry of a table the walk visits what is left of the table and of all
tables below it, and then goes on with `K`. -/
theorem walk_table (hroot : root_level ≤ 5) (l : ℕ) :
    ∀ (up : ℕ → ℕ) (base : ℕ) (K : List (RadixEntry ℕ × BitVec 64)),
    l + 1 ≤ root_level → min_level ≤ ((l + 1 : ℕ) : ℤ) →
    512 ^ (l + 1) ∣ base → base + 512 ^ (l + 1) ≤ 2 ^ 52 → Allocated mm m (l + 1) (up l) →
    (end_gfn < base + 512 ^ (l + 1) → K = []) →
    (∀ it, At m root_level min_level up l 511 (base + 511 * 512 ^ l) it →
      SideWalks exactHpage mm m end_gfn it K) →
    ∀ (i : ℕ) (it : TdpIter), i < 512 → Arrives m root_level min_level up start l base i it →
    Walks exactHpage mm m end_gfn it
      (visitsFrom mm m min_level start end_gfn l (up l) base i ++ K) := by
  induction l with
  | zero =>
    intro up base K hl hmin hbase hspace halloc hK hlast i it hi harr
    refine walk_entries hmin hbase hspace halloc.self hK hlast ?_ (511 - i) i it (by omega) harr
    intro i it c K' hi harr hne hc
    rw [(radix mm m).child_one] at hc
    exact absurd hc (by simp)
  | succ l ih =>
    intro up base K hl hmin hbase hspace halloc hK hlast i it hi harr
    refine walk_entries hmin hbase hspace halloc.self hK hlast ?_ (511 - i) i it (by omega) harr
    intro i it c K' hi harr hne hc hlt hK' hside
    obtain ⟨hat, hnl, hstart⟩ := harr
    have hg := hat.gfn
    have hpow : 512 ^ (l + 2) = 512 * 512 ^ (l + 1) := by ring
    have hpow1 : 512 ^ (l + 1) = 512 * 512 ^ l := by ring
    have hpos : 0 < 512 ^ l := Nat.pow_pos (by omega)
    have hsucc : (i + 1) * 512 ^ (l + 1) = i * 512 ^ (l + 1) + 512 ^ (l + 1) := by ring
    have hle : (i + 1) * 512 ^ (l + 1) ≤ 512 * 512 ^ (l + 1) := Nat.mul_le_mul_right _ (by omega)
    have hdvd : 512 ^ (l + 1) ∣ base + i * 512 ^ (l + 1) :=
      (Nat.dvd_add_right (Nat.dvd_trans (Nat.pow_dvd_pow 512 (by omega)) hbase)).2
        (Nat.dvd_mul_left _ _)
    -- down into the child table, to the entry of the goal
    have hcalloc : Allocated mm m (l + 1) c := halloc.child hi hc
    obtain ⟨j, hj, hround, hjle, hjlt⟩ := round_down (base + i * 512 ^ (l + 1))
      it.next_last_level_gfn l hdvd (by omega) (by omega) (by omega) (by omega)
    obtain ⟨it', hd, hat', hnl'⟩ :=
      hat.try_step_down exactHpage hne halloc.self hi hc hcalloc.self (by omega)
    obtain ⟨hdiv, hmod⟩ := entry_div (base + i * 512 ^ (l + 1)) j l hdvd
    have hidx : gfn_round_for_level exactHpage it.next_last_level_gfn (l + 1) / 512 ^ l % 512
        = j := by
      rw [hround, hdiv]
      omega
    rw [hidx, hround] at hat'
    have hg' := hat'.gfn
    have hsuccj : (j + 1) * 512 ^ l = j * 512 ^ l + 512 ^ l := by ring
    have hupc : Function.update up l c l = c := Function.update_self ..
    -- back up from its last entry
    have hback : ∀ it'', At m root_level min_level (Function.update up l c) l 511
        (base + i * 512 ^ (l + 1) + 511 * 512 ^ l) it'' →
        SideWalks exactHpage mm m end_gfn it'' K' := by
      intro it'' hat''
      obtain ⟨hdiv', hmod'⟩ := entry_div (base + i * 512 ^ (l + 1)) 511 l hdvd
      have hupl : Function.update up l c (l + 1) = up (l + 1) :=
        Function.update_of_ne (by omega) ..
      obtain ⟨itu, hu, hatu⟩ := hat''.try_step_up exactHpage (by omega) (by omega)
        (by rw [hupl]; exact halloc.self)
      obtain ⟨hdivu, hmodu⟩ := entry_div base i (l + 1) hbase
      rw [round_up base i 511 l hbase hi (by omega) (by omega) (by omega), hdivu] at hatu
      have hidxu : (base / 512 ^ (l + 1) + i) % 512 = i := by omega
      rw [hidxu] at hatu
      have hatu' : At m root_level min_level up (l + 1) i (base + i * 512 ^ (l + 1)) itu :=
        hatu.congr fun k hk => Function.update_of_ne (by omega) ..
      refine sideWalks_up (hat''.try_step_side_last exactHpage (by omega) (by rw [hdiv']; omega))
        hu (by rw [hat''.level, hat''.root]; omega) (by rw [hatu.level, hat''.level])
        (by rw [hatu.root, hat''.root]) (hside itu hatu')
    have hbelow : visitsBelow mm m min_level start end_gfn (l + 1) (up (l + 1)) base i =
        visitsFrom mm m min_level start end_gfn l c (base + i * 512 ^ (l + 1)) j := by
      rw [visitsBelow, Radix.below, hc]
      change (((radix mm m).preorder (l + 1) c (base + i * 512 ^ (l + 1))).filter _).map _ = _
      rw [Radix.preorder_succ, visitsFrom]
      by_cases hs : base + i * 512 ^ (l + 1) ≤ start
      · have hstartj : base + i * 512 ^ (l + 1) + j * 512 ^ l ≤ start := by omega
        rw [filter_from_start _ hstartj (by omega)]
      · have hj0 : j = 0 := by
          by_contra hj0
          have : 1 * 512 ^ l ≤ j * 512 ^ l := Nat.mul_le_mul_right _ (by omega)
          omega
        rw [hj0]
    rw [hbelow]
    refine walks_down hat.valid hat.yielded hlt hd ?_
    have hrec := ih (Function.update up l c) (base + i * 512 ^ (l + 1)) K' (by omega) (by omega)
      hdvd (by omega) (by rw [hupc]; exact hcalloc) (fun h => hK' (by omega)) hback j it' hj
      ⟨hat', by omega, by rw [hg']; omega⟩
    rw [hupc] at hrec
    exact hrec

end Exact

/-! ## The whole walk -/

/-- `tdp_iter_start` stands on the root's entry for the first gfn. -/
theorem tdp_iter_start_spec (hp : Hpage) (iter : TdpIter) (root : KvmMmuPage) (min_level : ℤ)
    (start l : ℕ) (hl : root.role.level = l + 1) (hlt : start < 2 ^ 52)
    (halloc : (m.spt root.spt).isSome) :
    ∃ it, tdp_iter_start hp m iter root min_level start = some it ∧
      At m (l + 1) min_level (Function.update iter.pt_path l root.spt) l
        (gfn_round_for_level hp start (l + 1) / 512 ^ l % 512)
        (gfn_round_for_level hp start (l + 1)) it ∧
      it.next_last_level_gfn = start := by
  have hle := round_le hp start (l + 1)
  have hidx := spte_index_eq (gfn_round_for_level hp start (l + 1)) l (by omega)
  have hread := read_spte halloc
    (Nat.mod_lt (gfn_round_for_level hp start (l + 1) / 512 ^ l) (by omega : 512 > 0))
  have hup : Function.update iter.pt_path l root.spt l = root.spt := Function.update_self ..
  refine ⟨{ iter with
    next_last_level_gfn := start
    yielded_gfn := start
    root_level := l + 1
    min_level := min_level
    pt_path := Function.update iter.pt_path l root.spt
    as_id := kvm_mmu_page_as_id root
    yielded := false
    level := l + 1
    gfn := gfn_round_for_level hp start (l + 1)
    sptep := ⟨root.spt, gfn_round_for_level hp start (l + 1) / 512 ^ l % 512⟩
    old_spte := m.entry root.spt (gfn_round_for_level hp start (l + 1) / 512 ^ l % 512)
    valid := true }, ?_, ?_, rfl⟩
  · simp only [tdp_iter_start, tdp_iter_restart, tdp_iter_refresh_sptep, hl, Nat.add_sub_cancel,
      hidx, hup, hread, Option.bind_eq_bind, Option.bind_some]
  · exact ⟨rfl, rfl, rfl, rfl, rfl, fun _ _ => rfl, rfl, by rw [hup], by rw [hup]⟩

/-- The entries that a walk of the tables below `root` is to visit, in pre-order. -/
def walkOrder (mm : Mm) (m : PtMem) (root : KvmMmuPage) (min_level : ℤ) (start end_gfn : ℕ) :
    List (RadixEntry ℕ) :=
  ((radix mm m).preorder root.role.level root.spt 0).filter (inWalk min_level start end_gfn)

/-- `for_each_tdp_pte_min_level` ends, and its iterator has shown the entries of `walkOrder`, one
after the other, each with its value. -/
def VisitsPreorder (mm : Mm) (m : PtMem) (iter : TdpIter) (root : KvmMmuPage) (min_level : ℤ)
    (start end_gfn : ℕ) : Prop :=
  ∃ n, ∀ fuel, n ≤ fuel →
    (for_each_tdp_pte_min_level exactHpage mm m fuel iter root min_level start end_gfn).map
      (List.map view) = some ((walkOrder mm m root min_level start end_gfn).map (withSpte m))

/-- The walk visits the pre-order of the tree, cut to its levels and its range. -/
theorem visits_preorder (iter : TdpIter) (root : KvmMmuPage) (min_level : ℤ)
    (start end_gfn l : ℕ) (hl : root.role.level = l + 1) (hroot : l + 1 ≤ 5)
    (halloc : Allocated mm m (l + 1) root.spt) (hstart : start < end_gfn)
    (hend : end_gfn ≤ 512 ^ (l + 1)) (hmin : min_level ≤ ((l + 1 : ℕ) : ℤ)) :
    VisitsPreorder mm m iter root min_level start end_gfn := by
  have hspace : 512 ^ (l + 1) ≤ 2 ^ 45 := by
    calc 512 ^ (l + 1) ≤ 512 ^ 5 := Nat.pow_le_pow_right (by omega) hroot
      _ = 2 ^ 45 := by norm_num
  obtain ⟨it, hit, hat, hnl⟩ := tdp_iter_start_spec exactHpage iter root min_level start l hl
    (by omega) halloc.self
  obtain ⟨j, hj, hround, hjle, hjlt⟩ := round_down 0 start l (Nat.dvd_zero _) (by omega) (by omega)
    (by omega) (by omega)
  obtain ⟨hdiv, hmod⟩ := entry_div 0 j l (Nat.dvd_zero _)
  have hidx : gfn_round_for_level exactHpage start (l + 1) / 512 ^ l % 512 = j := by
    rw [hround, hdiv]
    omega
  rw [hidx, hround] at hat
  have hg := hat.gfn
  have hsucc : (j + 1) * 512 ^ l = j * 512 ^ l + 512 ^ l := by ring
  have hpow : 512 ^ (l + 1) = 512 * 512 ^ l := by ring
  have hup : Function.update iter.pt_path l root.spt l = root.spt := Function.update_self ..
  -- past the last entry of the root table the walk is over
  have hlast : ∀ it', At m (l + 1) min_level (Function.update iter.pt_path l root.spt) l 511
      (0 + 511 * 512 ^ l) it' → SideWalks exactHpage mm m end_gfn it' [] := by
    intro it' hat'
    obtain ⟨hdiv', hmod'⟩ := entry_div 0 511 l (Nat.dvd_zero _)
    exact sideWalks_end (hat'.try_step_side_last exactHpage (by omega) (by rw [hdiv']; omega))
      (hat'.try_step_up_root exactHpage rfl)
  have hwalk := walk_table hroot l _ 0 [] (Nat.le_refl _) hmin (Nat.dvd_zero _) (by omega)
    (by rw [hup]; exact halloc) (fun _ => rfl) hlast j it hj
    (show Arrives m (l + 1) min_level _ start l 0 j it from ⟨hat, by omega, by omega⟩)
  obtain ⟨n, hn⟩ := hwalk
  refine ⟨n, fun fuel hfuel => ?_⟩
  have hvisits : visitsFrom mm m min_level start end_gfn l root.spt 0 j =
      (walkOrder mm m root min_level start end_gfn).map (withSpte m) := by
    rw [visitsFrom, walkOrder, hl, Radix.preorder_succ, filter_from_start _ (by omega) (by omega)]
  rw [for_each_tdp_pte_min_level, hit]
  have hfin := hn fuel hfuel
  rw [hup, List.append_nil, hvisits] at hfin
  exact hfin

/-- Which entries a walk is to visit: those of the tables that the paths from the root lead to, at
the levels from `min_level` up, whose gfns meet `[start, end_gfn)`. -/
theorem mem_walkOrder (mm : Mm) (m : PtMem) (root : KvmMmuPage) (min_level : ℤ)
    (start end_gfn : ℕ) (e : RadixEntry ℕ) :
    e ∈ walkOrder mm m root min_level start end_gfn ↔
      (∃ p : List ℕ, p.length < root.role.level ∧
        (radix mm m).nodeAt root.role.level root.spt p = some e.node ∧ e.idx < 512 ∧
        e.level = root.role.level - p.length ∧
        e.key = Radix.keyAt 512 root.role.level (p ++ [e.idx])) ∧
      min_level ≤ e.level ∧ e.key < end_gfn ∧ start < e.key + 512 ^ (e.level - 1) := by
  rw [walkOrder, List.mem_filter, Radix.mem_preorder_iff]
  simp only [inWalk, Bool.and_eq_true, decide_eq_true_eq, Nat.zero_add, and_assoc]

/-- In a tree every entry is visited once: an entry pointer determines its path, its level and its
gfn. -/
theorem walkOrder_nodup (root : KvmMmuPage) (min_level : ℤ) (start end_gfn : ℕ)
    (htree : PageTree mm m root.role.level root.spt) :
    ((walkOrder mm m root min_level start end_gfn).map
      fun e => (⟨e.node, e.idx⟩ : Sptep)).Nodup := by
  refine List.Nodup.map_on ?_ (((radix mm m).preorder_nodup (by omega) _ _ _).filter _)
  intro e he f hf hef
  obtain ⟨⟨p, -, hp, -, hplevel, hpkey⟩, -⟩ := (mem_walkOrder ..).1 he
  obtain ⟨⟨q, -, hq, -, hqlevel, hqkey⟩, -⟩ := (mem_walkOrder ..).1 hf
  obtain ⟨hnode, hidx⟩ := Sptep.mk.inj hef
  have hpq : p = q := htree.distinct p q e.node hp (by rw [hnode]; exact hq)
  subst hpq
  ext
  · exact hnode
  · exact hidx
  · rw [hplevel, hqlevel]
  · rw [hpkey, hqkey, hidx]

/-- **The walk of `for_each_tdp_pte_min_level`.** Over a tree of page tables of root level 4 or 5,
for a range inside its address space and a lowest level that is a level of the tree, the loop ends
and its iterator shows, in pre-order and each once, exactly the entries of the reachable tables at
the levels from `min_level` up whose gfns meet the range. -/
theorem for_each_tdp_pte_min_level_preorder (mm : Mm) (m : PtMem) (iter : TdpIter)
    (root : KvmMmuPage) (min_level : ℤ) (start end_gfn : ℕ)
    (hlevel : root.role.level = 4 ∨ root.role.level = 5)
    (htree : PageTree mm m root.role.level root.spt) (hstart : start < end_gfn)
    (hend : end_gfn ≤ 512 ^ root.role.level) (hmin : min_level ≤ root.role.level) :
    VisitsPreorder mm m iter root min_level start end_gfn ∧
      ((walkOrder mm m root min_level start end_gfn).map
        fun e => (⟨e.node, e.idx⟩ : Sptep)).Nodup ∧
      ∀ e, e ∈ walkOrder mm m root min_level start end_gfn ↔
        (∃ p : List ℕ, p.length < root.role.level ∧
          (radix mm m).nodeAt root.role.level root.spt p = some e.node ∧ e.idx < 512 ∧
          e.level = root.role.level - p.length ∧
          e.key = Radix.keyAt 512 root.role.level (p ++ [e.idx])) ∧
        min_level ≤ e.level ∧ e.key < end_gfn ∧ start < e.key + 512 ^ (e.level - 1) := by
  refine ⟨?_, walkOrder_nodup root min_level start end_gfn htree, fun e => mem_walkOrder ..⟩
  obtain ⟨l, hl⟩ : ∃ l, root.role.level = l + 1 := ⟨root.role.level - 1, by omega⟩
  have halloc := htree.allocated
  rw [hl] at hend hmin halloc
  exact visits_preorder iter root min_level start end_gfn l hl (by omega) halloc hstart hend hmin

/-! ### Two page tables -/

/-- A root table at `0x1000` whose entry 0 leads to an empty table at `0x2000`. -/
def twoTables : PtMem where
  spt pt :=
    if pt = 0x1000 then some fun i => if i = 0 then 0x2807 else 0
    else if pt = 0x2000 then some fun _ => 0
    else none
  spt_null := rfl

/-- The page header of a direct root of level 4 at `0x1000`. -/
def rootPage : KvmMmuPage where
  role := ⟨0x84⟩
  gfn := 0
  spt := 0x1000
  shadowed_translation := 0
  tdp_mmu_page := true
  nx_huge_page_disallowed := false
  mmu_valid_gen := 0
  tdp_mmu_root_count := 2

/-- An iterator before its first use. -/
def blankIter : TdpIter where
  next_last_level_gfn := 0
  yielded_gfn := 0
  pt_path := fun _ => 0
  sptep := ⟨0, 0⟩
  gfn := 0
  root_level := 0
  min_level := 0
  level := 0
  as_id := 0
  old_spte := 0
  valid := false
  yielded := false

theorem twoTables_root (i : ℕ) :
    (radix flatMm twoTables).child 4 0x1000 i = if i = 0 then some 0x2000 else none := by
  by_cases hi : i = 0
  · subst hi
    decide
  · have hz : twoTables.entry 0x1000 i = 0 := by
      by_cases h512 : i < 512
      · simp [PtMem.entry, kvm_tdp_mmu_read_spte, twoTables, h512, hi]
      · simp [PtMem.entry, kvm_tdp_mmu_read_spte, h512]
    simp [radix, hz, hi]

theorem twoTables_leaf (i : ℕ) : (radix flatMm twoTables).child 3 0x2000 i = none := by
  have hz : twoTables.entry 0x2000 i = 0 := by
    by_cases h512 : i < 512
    · simp [PtMem.entry, kvm_tdp_mmu_read_spte, twoTables, h512]
    · simp [PtMem.entry, kvm_tdp_mmu_read_spte, h512]
  simp [radix, hz]

theorem twoTables_paths (p : List ℕ) (t : ℕ)
    (h : (radix flatMm twoTables).nodeAt 4 0x1000 p = some t) :
    (p = [] ∧ t = 0x1000) ∨ (p = [0] ∧ t = 0x2000) := by
  match p with
  | [] =>
    simp only [Radix.nodeAt, Option.some.injEq] at h
    exact Or.inl ⟨rfl, h.symm⟩
  | [i] =>
    simp only [Radix.nodeAt, twoTables_root] at h
    by_cases hi : i = 0
    · subst hi
      simp at h
      exact Or.inr ⟨rfl, h.symm⟩
    · simp [hi] at h
  | i :: j :: p =>
    simp only [Radix.nodeAt, twoTables_root] at h
    by_cases hi : i = 0
    · subst hi
      simp [twoTables_leaf] at h
    · simp [hi] at h

theorem twoTables_tree : PageTree flatMm twoTables rootPage.role.level rootPage.spt := by
  refine ⟨?_, ?_⟩
  · intro p t h
    rcases twoTables_paths p t h with ⟨-, rfl⟩ | ⟨-, rfl⟩ <;> rfl
  · intro p q t hp hq
    rcases twoTables_paths p t hp with ⟨rfl, rfl⟩ | ⟨rfl, rfl⟩ <;>
      rcases twoTables_paths q _ hq with ⟨rfl, h⟩ | ⟨rfl, h⟩ <;> first | rfl | cases h

/-- The walk over the two tables from gfn 5 to gfn 7, leaves included. -/
theorem two_tables_preorder :
    VisitsPreorder flatMm twoTables blankIter rootPage 1 5 7 ∧
      ((walkOrder flatMm twoTables rootPage 1 5 7).map
        fun e => (⟨e.node, e.idx⟩ : Sptep)).Nodup := by
  obtain ⟨h1, h2, -⟩ := for_each_tdp_pte_min_level_preorder flatMm twoTables blankIter rootPage 1 5 7
    (by decide) twoTables_tree (by decide) (by decide) (by decide)
  exact ⟨h1, h2⟩

/-- Above the root level there is no entry to visit, but `tdp_iter_start` stands on an entry of the
root whatever `min_level` is. -/
theorem two_tables_above_root :
    PageTree flatMm twoTables rootPage.role.level rootPage.spt ∧
      ¬ VisitsPreorder flatMm twoTables blankIter rootPage 5 0 1 := by
  refine ⟨twoTables_tree, ?_⟩
  rintro ⟨n, hn⟩
  have hnone : walkOrder flatMm twoTables rootPage 5 0 1 = [] := by
    refine List.filter_eq_nil_iff.2 fun e he => ?_
    have hle := ((radix flatMm twoTables).mem_preorder_bounds _ _ _ e he).2.2.2
    have hlevel : rootPage.role.level = 4 := by decide
    simp only [inWalk, Bool.and_eq_true, decide_eq_true_eq]
    omega
  obtain ⟨it, hit, hat, -⟩ := tdp_iter_start_spec exactHpage blankIter rootPage 5 0 3 (by decide)
    (by decide) (show (twoTables.spt rootPage.spt).isSome from rfl)
  have hfirst := hn (n + 1) (by omega)
  rw [hnone, for_each_tdp_pte_min_level, hit] at hfirst
  have hvisit : (it.valid && decide (it.gfn < 1)) = true := by
    rw [hat.valid, hat.gfn]
    decide
  obtain ⟨vs, hvs, hmap⟩ := Option.map_eq_some_iff.1 hfirst
  simp only [Option.bind_eq_bind, Option.bind_some, for_each_tdp_pte, hvisit, if_true] at hvs
  obtain ⟨next, -, hvs⟩ := Option.bind_eq_some_iff.1 hvs
  obtain ⟨rest, -, hvs⟩ := Option.bind_eq_some_iff.1 hvs
  rw [← Option.some.inj hvs] at hmap
  simp at hmap

end Svmx.Tdp
