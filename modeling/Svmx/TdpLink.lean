/-
Linking a new table into a TDP tree.

`tdp_mmu_link_sp` replaces an entry that leads nowhere, a non-present one or a huge page, by the
entry of an empty table. If the compare-exchange finds the value it expects, the tree grows by that
table (`link_linked`) and stays a tree (`link_tree`); the page that the entry mapped, if it did, is
mapped no longer, and every other gfn keeps its translation (`walk_leaf_link`).
-/
import Svmx.TdpMap

set_option autoImplicit false

namespace Svmx.Tdp

variable {mm : Mm} {m : PtMem} {R root : ℕ}

/-! ## The translation of a gfn -/

/-- What the tree maps a gfn to: the level and the value of the leaf that its way ends at. -/
def walk_leaf (mm : Mm) (m : PtMem) (level pt gfn : ℕ) : Option (ℕ × BitVec 64) :=
  let e := (radix mm m).descend level pt gfn
  if is_leaf_spte (m.entry e.node e.idx) e.level then some (e.level, m.entry e.node e.idx) else none

/-- The value of an entry as a weight. -/
def spteAt (m : PtMem) (_level t i : ℕ) : BitVec 64 := m.entry t i

theorem walk_leaf_congr {m' : PtMem} {level pt gfn : ℕ}
    (h : (radix mm m').descend level pt gfn = (radix mm m).descend level pt gfn ∧
      spteAt m' ((radix mm m).descend level pt gfn).level ((radix mm m).descend level pt gfn).node
          ((radix mm m).descend level pt gfn).idx =
        spteAt m ((radix mm m).descend level pt gfn).level ((radix mm m).descend level pt gfn).node
          ((radix mm m).descend level pt gfn).idx) :
    walk_leaf mm m' level pt gfn = walk_leaf mm m level pt gfn := by
  obtain ⟨hway, hspte⟩ := h
  unfold spteAt at hspte
  unfold walk_leaf
  simp only [hway, hspte]

/-! ## An empty table -/

/-- A page that can become a page table: it is not in use, and the kernel translates its address. -/
structure FreshTable (mm : Mm) (m : PtMem) (t : ℕ) : Prop where
  unused : m.spt t = none
  ne_null : t ≠ 0
  translates : Translates mm t

theorem alloc_spt_ne {t a : ℕ} (h : a ≠ t) : (m.alloc t).spt a = m.spt a := by
  exact if_neg fun hat => h hat.1

theorem alloc_spt_self {t : ℕ} (h : t ≠ 0) : (m.alloc t).spt t = some fun _ => 0 :=
  if_pos ⟨rfl, h⟩

theorem alloc_entry_self (t i : ℕ) : (m.alloc t).entry t i = 0 := by
  unfold PtMem.entry kvm_tdp_mmu_read_spte
  by_cases ht : t = 0
  · subst ht
    simp [PtMem.spt_null]
  · rw [alloc_spt_self ht]
    by_cases hi : i < 512
    · simp [hi]
    · simp [hi]

/-- A table that can be reached is in use. -/
theorem FreshTable.unreached {t : ℕ} (h : FreshTable mm m t) (htree : PageTree mm m R root)
    (p : List ℕ) : (radix mm m).nodeAt R root p ≠ some t := by
  intro hp
  have hsome := htree.allocated p t hp
  rw [h.unused] at hsome
  cases hsome

theorem alloc_same {t : ℕ} (h : FreshTable mm m t) (htree : PageTree mm m R root) :
    Radix.SameBelow (radix mm m) (radix mm (m.alloc t)) (spteAt m) (spteAt (m.alloc t)) R root := by
  intro p u hp i _
  have hne : u ≠ t := by
    rintro rfl
    exact h.unreached htree p hp
  have hentry : (m.alloc t).entry u i = m.entry u i := entry_congr (alloc_spt_ne hne) i
  unfold radix spteAt
  simp only [hentry, and_self]

theorem alloc_isSome (t : ℕ) {a : ℕ} (h : (m.spt a).isSome) : ((m.alloc t).spt a).isSome := by
  unfold PtMem.alloc
  dsimp only
  split
  · rfl
  · exact h

/-- The tree is the same tree with the empty table beside it. -/
theorem alloc_tree {t : ℕ} (h : FreshTable mm m t) (htree : PageTree mm m R root) :
    PageTree mm (m.alloc t) R root := by
  have hpath := (alloc_same h htree).nodeAt
  refine ⟨fun p u hp => ?_, fun p q u hp hq => ?_⟩
  · rw [hpath] at hp
    exact alloc_isSome t (htree.allocated p u hp)
  · rw [hpath] at hp hq
    exact htree.distinct p q u hp hq

/-! ## The new entry -/

/-- An entry that is the link to the table `t`. -/
structure LinkSpte (mm : Mm) (t : ℕ) (spte : BitVec 64) : Prop where
  present : is_shadow_present_pte spte = true
  not_large : is_large_pte spte = false
  frame : mm.virt (spte &&& SPTE_BASE_ADDR_MASK) = t

/-- The entry of `tdp_mmu_link_sp` under the EPT masks is the link to its table. -/
theorem link_spte_link (masks : PteMasks) (has_ad_bits has_exec_only : Bool) {t : ℕ}
    (hmasks : masks.toSpteMasks = kvm_mmu_set_ept_masks has_ad_bits has_exec_only)
    (ht : Translates mm t) : LinkSpte mm t (link_spte mm masks t) := by
  have hframe := ShadowPage.make_nonleaf_spte_frame mm has_ad_bits has_exec_only
    (!kvm_ad_enabled masks.toSpteMasks) t ht
  refine ⟨make_nonleaf_spte_present _ _ _ _, ?_, ?_⟩
  · -- the frame has no low bits, and the other parts have bit 7 clear
    have hmask : SPTE_BASE_ADDR_MASK &&& PT_PAGE_SIZE_MASK = 0#64 := by decide
    have hphys : mm.phys t &&& PT_PAGE_SIZE_MASK = 0 := by
      rw [← ht.2, BitVec.and_assoc, hmask]
      exact BitVec.and_zero
    have hzero : link_spte mm masks t &&& PT_PAGE_SIZE_MASK = 0 := by
      rw [link_spte, hmasks, ShadowPage.make_nonleaf_spte_and mm _ _ _ t (by decide), hphys]
    simp [is_large_pte, hzero]
  · rw [link_spte, hmasks] at *
    rw [hframe, ht.1]

/-! ## The grown tree -/

section Link

variable {q : List ℕ} {u i t : ℕ} {spte : BitVec 64}

/-- Where a table is linked: at an entry of a reachable table above level 1 that leads nowhere; the
table is empty and cannot be reached yet. -/
structure LinkSite (mm : Mm) (m : PtMem) (R root : ℕ) (q : List ℕ) (u i t : ℕ) : Prop where
  node : (radix mm m).nodeAt R root q = some u
  idx : i < 512
  level : q.length + 1 < R
  free : (radix mm m).child (R - q.length) u i = none
  alloc : (m.spt t).isSome
  empty : ∀ j, m.entry t j = 0
  unreached : ∀ p, (radix mm m).nodeAt R root p ≠ some t

theorem LinkSite.ne (h : LinkSite mm m R root q u i t) : t ≠ u := by
  rintro rfl
  exact h.unreached q h.node

/-- The entries that can be reached are unchanged but for one. -/
theorem link_entry (htree : PageTree mm m R root) (h : LinkSite mm m R root q u i t) {p : List ℕ}
    {v j : ℕ} (hp : (radix mm m).nodeAt R root p = some v) (hj : p = q → j ≠ i)
    (spte : BitVec 64) : (m.write ⟨u, i⟩ spte).entry v j = m.entry v j := by
  refine write_entry_ne (fun hvu => ?_) spte
  subst hvu
  exact hj (htree.distinct p q v hp h.node)

theorem link_entry_self (htree : PageTree mm m R root) (h : LinkSite mm m R root q u i t)
    (spte : BitVec 64) : (m.write ⟨u, i⟩ spte).entry u i = spte :=
  write_entry_self (htree.allocated q u h.node) h.idx spte

theorem link_child (htree : PageTree mm m R root) (h : LinkSite mm m R root q u i t)
    (hspte : LinkSpte mm t spte) :
    (radix mm (m.write ⟨u, i⟩ spte)).child (R - q.length) u i = some t := by
  have hself := link_entry_self htree h spte
  have hlevel : R - q.length ≠ 1 := by
    have := h.level
    omega
  rw [child_of_spte (by rw [hself]; exact hspte.present)
    (by simp [hself, is_last_spte, hspte.not_large, hlevel, PG_LEVEL_4K]), hself, hspte.frame]

/-- **The tree grows** by the linked table. -/
theorem link_linked (htree : PageTree mm m R root) (h : LinkSite mm m R root q u i t)
    (hspte : LinkSpte mm t spte) :
    Radix.Linked (radix mm m) (radix mm (m.write ⟨u, i⟩ spte)) R root q u i t where
  node := h.node
  idx := h.idx
  free := h.free
  child := link_child htree h hspte
  empty level j := by
    refine no_child_of_spte (Or.inl ?_)
    rw [write_entry_ne (fun heq => absurd heq h.ne), h.empty]
    exact is_shadow_present_pte_zero
  same p v j hp _ hne := by
    have hentry := link_entry htree h hp hne spte
    unfold radix
    simp only [hentry]

/-- Linking a table keeps a tree. -/
theorem link_tree (htree : PageTree mm m R root) (h : LinkSite mm m R root q u i t)
    (hspte : LinkSpte mm t spte) : PageTree mm (m.write ⟨u, i⟩ spte) R root := by
  have hlinked := link_linked htree h hspte
  refine ⟨fun p v hp => ?_, hlinked.distinct h.unreached htree.distinct⟩
  rcases (hlinked.nodeAt_iff p v).mp hp with hp | ⟨-, rfl⟩
  · exact write_isSome _ _ (htree.allocated p v hp)
  · exact write_isSome _ _ h.alloc

theorem link_same (htree : PageTree mm m R root) (h : LinkSite mm m R root q u i t) :
    Radix.SameBut (radix mm m) (radix mm (m.write ⟨u, i⟩ spte)) (spteAt m)
      (spteAt (m.write ⟨u, i⟩ spte)) R root q i := by
  intro p v hp _ j _ hne
  have hentry := link_entry htree h hp hne spte
  unfold radix spteAt
  simp only [hentry, and_self]

/-- The way to a gfn after a table is linked. If it ended at the entry, it goes on below it;
otherwise it is the old one, and so is its end. -/
theorem descend_link (htree : PageTree mm m R root) (h : LinkSite mm m R root q u i t)
    (hspte : LinkSpte mm t spte) (g : ℕ) :
    let e := (radix mm m).descend R root g
    (e.node = u ∧ e.idx = i ∧ e.level = R - q.length ∧
      (radix mm (m.write ⟨u, i⟩ spte)).descend R root g =
        (radix mm (m.write ⟨u, i⟩ spte)).descend (R - q.length - 1) t g) ∨
    (¬ (e.node = u ∧ e.idx = i) ∧
      walk_leaf mm (m.write ⟨u, i⟩ spte) R root g = walk_leaf mm m R root g) := by
  have hlevel := h.level
  rcases Radix.descend_replace (by omega) h.node (by omega) h.free (link_same htree h) g with
    ⟨hu, hi, hl, hidx, hway⟩ | hsame
  · refine Or.inl ⟨hu, hi, hl, ?_⟩
    obtain ⟨k, hk⟩ : ∃ k, R - q.length = k + 1 := ⟨R - q.length - 1, by omega⟩
    have hchild := link_child htree h hspte
    rw [hk] at hchild hidx
    rw [hway, hk, Nat.add_sub_cancel, Radix.descend]
    rw [Nat.add_sub_cancel] at hidx
    simp only [hidx, hchild]
  · refine Or.inr ⟨?_, walk_leaf_congr hsame⟩
    rintro ⟨hu, hi⟩
    -- the entry has changed: it leads on now
    have hspteAt := hsame.2
    rw [hu, hi] at hspteAt
    unfold spteAt at hspteAt
    have hchild : (radix mm (m.write ⟨u, i⟩ spte)).child (R - q.length) u i =
        (radix mm m).child (R - q.length) u i := by
      unfold radix
      simp only [hspteAt]
    rw [link_child htree h hspte, h.free] at hchild
    cases hchild

/-- **The translations after a table is linked.** The gfns whose way ended at the entry have none,
all others keep theirs. -/
theorem walk_leaf_link (htree : PageTree mm m R root) (h : LinkSite mm m R root q u i t)
    (hspte : LinkSpte mm t spte) (g : ℕ) :
    let e := (radix mm m).descend R root g
    walk_leaf mm (m.write ⟨u, i⟩ spte) R root g =
      if e.node = u ∧ e.idx = i then none else walk_leaf mm m R root g := by
  intro e
  rcases descend_link htree h hspte g with ⟨hu, hi, -, hway⟩ | ⟨hne, hsame⟩
  · rw [if_pos ⟨hu, hi⟩]
    have hempty : ∀ j, (m.write ⟨u, i⟩ spte).entry t j = 0 := by
      intro j
      rw [write_entry_ne (fun heq => absurd heq h.ne), h.empty]
    obtain ⟨k, hk⟩ : ∃ k, R - q.length - 1 = k + 1 := by
      have := h.level
      exact ⟨R - q.length - 2, by omega⟩
    have hnone : (radix mm (m.write ⟨u, i⟩ spte)).child (k + 1) t (g / 512 ^ k % 512) = none :=
      (link_linked htree h hspte).empty _ _
    have hend : (radix mm (m.write ⟨u, i⟩ spte)).descend (k + 1) t g =
        ⟨t, g / 512 ^ k % 512, k + 1, g / 512 ^ k * 512 ^ k⟩ := by
      rw [Radix.descend, hnone]
    unfold walk_leaf
    rw [hway, hk, hend]
    simp [hempty, is_leaf_spte]
  · rw [if_neg hne, hsame]

end Link

end Svmx.Tdp
