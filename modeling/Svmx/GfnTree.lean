/-
The gfn tree of a memslot set: `kvm_insert_gfn_node` and `kvm_replace_gfn_node` keep it a
red-black search tree on `base_gfn`, and `kvm_check_memslot_overlap` finds every slot of another
id that meets a gfn range.

A search for a place among the slots is a walk that narrows a focus (`gfn_descend_spec`), so the
insertion is the red-black insertion at the hole where the walk ends. The iterator is described
by the in-order sequence of the tree: `kvm_memslot_iter_start` is the first slot that ends after
the start of the range, and the loop reads the sequence from there.
-/
import Svmx.MemSlot
import Svmx.RbInsert
import Svmx.RbWalk

set_option autoImplicit false

namespace Svmx.MemSlot

open ColorTree ColorTree.CTree RbTree

/-! ## Slots at an address -/

/-- The slot at an address that holds one. -/
def slotAt (slot : Ptr → Option KvmMemorySlot) (p : Ptr) : KvmMemorySlot :=
  (slot p).getD ⟨0, 0, 0, .zero, 0, 0, 0⟩

theorem slotAt_of_some {slot : Ptr → Option KvmMemorySlot} {p : Ptr} {m : KvmMemorySlot}
    (h : slot p = some m) : slotAt slot p = m := by
  rw [slotAt, h, Option.getD_some]

theorem slot_eq_slotAt {slot : Ptr → Option KvmMemorySlot} {p : Ptr} (h : (slot p).isSome) :
    slot p = some (slotAt slot p) := by
  obtain ⟨m, hm⟩ := Option.isSome_iff_exists.1 h
  rw [slotAt_of_some hm, hm]

/-- A red-black search tree of slots: the heap `s` holds `t`, and the `base_gfn` of the slots
increase strictly in order. -/
structure IsGfnTree (slot : Ptr → Option KvmMemorySlot) (s : RbState) (t : CTree Ptr) : Prop where
  tree : IsTree s t
  redBlack : IsRedBlack t
  slots : ∀ p ∈ t.toList, (slot p).isSome
  sorted : t.toList.Pairwise (fun p q => (slotAt slot p).base_gfn < (slotAt slot q).base_gfn)

section

variable {slot : Ptr → Option KvmMemorySlot} {s : RbState}

/-! ## Insertion -/

/-- **The descent.** Starting anywhere on the search path of a key that no slot has, the loop
ends at the empty place of that key: everything before it is smaller, everything after it is
larger. -/
theorem gfn_descend_spec (base_gfn : ℕ) {fuel : ℕ} {t : CTree Ptr} {ctx : Ctx Ptr}
    (h : Focus s t ctx)
    (hslots : ∀ p ∈ t.toList, (slot p).isSome)
    (hsorted : t.toList.Pairwise
      (fun p q => (slotAt slot p).base_gfn < (slotAt slot q).base_gfn))
    (hne : ∀ p ∈ t.toList, (slotAt slot p).base_gfn ≠ base_gfn)
    (hbefore : ∀ p ∈ Ctx.before ctx, (slotAt slot p).base_gfn < base_gfn)
    (hafter : ∀ p ∈ Ctx.after ctx, base_gfn < (slotAt slot p).base_gfn)
    (hfuel : t.toList.length < fuel) :
    ∃ hole, gfn_descend slot s base_gfn fuel (ctxLink ctx) (ctxPtr ctx)
        = some (ctxLink hole, ctxPtr hole)
      ∧ Ctx.plug .leaf hole = Ctx.plug t ctx
      ∧ (∀ p ∈ Ctx.before hole, (slotAt slot p).base_gfn < base_gfn)
      ∧ ∀ p ∈ Ctx.after hole, base_gfn < (slotAt slot p).base_gfn := by
  induction t generalizing ctx fuel with
  | leaf =>
    obtain ⟨fuel, rfl⟩ : ∃ k, fuel = k + 1 := ⟨fuel - 1, by simp at hfuel; omega⟩
    refine ⟨ctx, ?_, rfl, hbefore, hafter⟩
    rw [gfn_descend, read_link_spec h.repCtx]
    rfl
  | node c l a r ihl ihr =>
    obtain ⟨fuel, rfl⟩ : ∃ k, fuel = k + 1 := ⟨fuel - 1, by omega⟩
    have ha0 : a ≠ 0 := (h.ptr a (by simp)).1
    have hlen : l.toList.length < fuel ∧ r.toList.length < fuel := by
      simp only [toList_node, List.length_append, List.length_cons] at hfuel
      omega
    rw [toList_node, List.pairwise_append, List.pairwise_cons] at hsorted
    obtain ⟨hsl, ⟨har, hsr⟩, hlr⟩ := hsorted
    have hstep : gfn_descend slot s base_gfn (fuel + 1) (ctxLink ctx) (ctxPtr ctx)
        = if base_gfn < (slotAt slot a).base_gfn then
            gfn_descend slot s base_gfn fuel (.child .left a) a
          else if base_gfn > (slotAt slot a).base_gfn then
            gfn_descend slot s base_gfn fuel (.child .right a) a
          else none := by
      rw [gfn_descend, read_link_spec h.repCtx]
      simp only [Option.bind_eq_bind, Option.bind_some, rootPtr_node]
      rw [if_neg ha0, slot_eq_slotAt (hslots a (by simp)), Option.bind_some]
    rw [hstep]
    -- the node and the side that is left become part of the context
    by_cases hlt : base_gfn < (slotAt slot a).base_gfn
    · rw [if_pos hlt]
      have hfoc : Focus s l (⟨.left, c, a, r⟩ :: ctx) := focus_up.2 h
      refine ihl hfoc (fun p hp => hslots p (by simp [hp])) hsl
        (fun p hp => hne p (by simp [hp])) hbefore ?_ hlen.1
      intro p hp
      simp only [Ctx.after, List.mem_append, List.mem_cons] at hp
      rcases hp with (rfl | hp) | hp
      · exact hlt
      · exact hlt.trans (har p hp)
      · exact hafter p hp
    · have hgt : (slotAt slot a).base_gfn < base_gfn := by
        have := hne a (by simp)
        omega
      rw [if_neg hlt, if_pos hgt]
      have hfoc : Focus s r (⟨.right, c, a, l⟩ :: ctx) := focus_up.2 h
      refine ihr hfoc (fun p hp => hslots p (by simp [hp])) hsr
        (fun p hp => hne p (by simp [hp])) ?_ hafter hlen.2
      intro p hp
      simp only [Ctx.before, List.mem_append, List.mem_singleton] at hp
      rcases hp with hp | hp | rfl
      · exact hbefore p hp
      · exact (hlr p hp a (by simp)).trans hgt
      · exact hgt

/-- **Insertion.** A slot whose `base_gfn` is not in the tree is put at its sorted place, and the
tree is again a red-black search tree. No cell outside the tree changes. -/
theorem kvm_insert_gfn_node_spec {t : CTree Ptr} {p fuel : ℕ} (h : IsGfnTree slot s t)
    (hp : (slot p).isSome) (hcell : s.node p ≠ none) (hptr : NodePtr p)
    (hnew : ∀ q ∈ t.toList, (slotAt slot q).base_gfn ≠ (slotAt slot p).base_gfn)
    (hfuel : t.toList.length < fuel) :
    ∃ s' t' l₁ l₂, kvm_insert_gfn_node fuel slot s p = some s' ∧ IsGfnTree slot s' t'
      ∧ t.toList = l₁ ++ l₂ ∧ t'.toList = l₁ ++ p :: l₂
      ∧ ∀ q, q ≠ p → q ∉ t.toList → s'.node q = s.node q := by
  obtain ⟨hole, hdesc, hplug, hlow, hhigh⟩ := gfn_descend_spec (slotAt slot p).base_gfn h.tree
    h.slots h.sorted hnew (by simp [Ctx.before]) (by simp [Ctx.after]) hfuel
  rw [Ctx.plug_nil] at hplug
  have hfoc : Focus s .leaf hole := focus_iff_isTree.2 (by rw [hplug]; exact h.tree)
  have hlist : t.toList = Ctx.before hole ++ Ctx.after hole := by
    rw [← hplug, Ctx.toList_plug]
    simp
  have hlabels : ∀ q, q ∈ Ctx.labels hole ↔ q ∈ t.toList := by
    intro q
    rw [← hplug, Ctx.mem_plug]
    simp
  have hpt : p ∉ Ctx.labels hole := fun hm => hnew p ((hlabels p).1 hm) rfl
  have hlen : hole.length < fuel := by
    have h1 := Ctx.length_le_labels hole
    have h2 := (Ctx.perm_labels hole).length_eq
    rw [← hlist] at h2
    omega
  obtain ⟨s', t', hs', htree, hrb, hlist', hframe⟩ :=
    rb_link_insert_spec hfoc (by rw [hplug]; exact h.redBlack) hcell hptr hpt hlen
  refine ⟨s', t', Ctx.before hole, Ctx.after hole, ?_, ⟨htree, hrb, ?_, ?_⟩, hlist, hlist', ?_⟩
  · rw [kvm_insert_gfn_node, slot_eq_slotAt hp]
    simp only [Option.bind_eq_bind, Option.bind_some]
    have hd : gfn_descend slot s (slotAt slot p).base_gfn fuel .root 0
        = some (ctxLink hole, ctxPtr hole) := hdesc
    rw [hd, Option.bind_some]
    exact hs'
  · intro q hq
    rw [hlist'] at hq
    simp only [List.mem_append, List.mem_cons] at hq
    rcases hq with hq | rfl | hq
    · exact h.slots q (by simp [hlist, hq])
    · exact hp
    · exact h.slots q (by simp [hlist, hq])
  · have hs := h.sorted
    rw [hlist, List.pairwise_append] at hs
    rw [hlist', List.pairwise_append, List.pairwise_cons]
    refine ⟨hs.1, ⟨hhigh, hs.2.1⟩, ?_⟩
    intro a ha b hb
    rcases List.mem_cons.1 hb with rfl | hb
    · exact hlow a ha
    · exact hs.2.2 a ha b hb
  · intro q hqp hqt
    exact hframe q hqp (fun hm => hqt ((hlabels q).1 hm))

/-! ## Replacement -/

/-- **Replacement.** A slot gives its node to another slot of the same `base_gfn`: the same tree
with that one label exchanged. -/
theorem kvm_replace_gfn_node_spec {t : CTree Ptr} {old new : ℕ} (h : IsGfnTree slot s t)
    (hold : old ∈ t.toList) (hnew : new ∉ t.toList) (hslot : (slot new).isSome)
    (hcell : s.node new ≠ none) (hptr : NodePtr new)
    (hbase : (slotAt slot old).base_gfn = (slotAt slot new).base_gfn) :
    ∃ s', kvm_replace_gfn_node s old new = some s'
      ∧ IsGfnTree slot s' (t.map (fun p => if p = old then new else p))
      ∧ ∀ q, q ≠ new → q ∉ t.toList → s'.node q = s.node q := by
  obtain ⟨c, l, r, ctx, rfl⟩ := Ctx.exists_plug hold
  have hfoc : Focus s (.node c l old r) ctx := focus_iff_isTree.2 h.tree
  have hnd := hfoc.nodup
  have hnew' : new ∉ (CTree.node c l old r).toList ++ Ctx.labels ctx := by
    rw [List.mem_append, ← Ctx.mem_plug]
    exact hnew
  obtain ⟨s', hs', hfoc', hframe⟩ := rb_replace_focus_spec hfoc hcell hptr hnew'
  -- the labels are distinct, so only the node in focus is relabelled
  have hmap : (Ctx.plug (.node c l old r) ctx).map (fun p => if p = old then new else p)
      = Ctx.plug (.node c l new r) ctx := by
    have hfix : ∀ x, x ≠ old → (if x = old then new else x) = x := fun x hx => if_neg hx
    have hndl := (List.nodup_append.1 hnd).1
    rw [toList_node, List.nodup_append, List.nodup_cons] at hndl
    have hl : ∀ x ∈ l.toList, x ≠ old := fun x hx => hndl.2.2 x hx old (by simp)
    have hr : ∀ x ∈ r.toList, x ≠ old := fun x hx e => hndl.2.1.1 (e ▸ hx)
    have hctx : ∀ x ∈ Ctx.labels ctx, x ≠ old := fun x hx e =>
      (List.nodup_append.1 hnd).2.2 old (by simp) x hx e.symm
    rw [Ctx.map_plug fun x hx => hfix x (hctx x hx), CTree.map,
      map_eq_self fun x hx => hfix x (hl x hx), map_eq_self fun x hx => hfix x (hr x hx),
      if_pos rfl]
  refine ⟨s', hs', ⟨?_, ?_, ?_, ?_⟩, hframe⟩
  · rw [hmap]
    exact focus_iff_isTree.1 hfoc'
  · obtain ⟨hc, n, hn⟩ := h.redBlack
    exact ⟨by rw [color_map, hc], n, hn.map _⟩
  · intro q hq
    rw [toList_map, List.mem_map] at hq
    obtain ⟨x, hx, rfl⟩ := hq
    split
    · exact hslot
    · exact h.slots x hx
  · rw [toList_map, List.pairwise_map]
    refine h.sorted.imp ?_
    intro a b hab
    have hkey : ∀ x, (slotAt slot (if x = old then new else x)).base_gfn
        = (slotAt slot x).base_gfn := by
      intro x
      split
      · rename_i hx
        rw [hx, hbase]
      · rfl
    rw [hkey a, hkey b]
    exact hab

/-! ## The tree under insertion and replacement -/

/-- **The gfn tree.** From any red-black search tree of slots with a black root: inserting a slot
whose `base_gfn` is not in it terminates and gives a red-black search tree with the new slot at
its sorted place, and `rb_replace_node` of a node by a slot of the same `base_gfn` exchanges this
one label and nothing else. -/
theorem gfn_tree_insert_replace {t : CTree Ptr} (h : IsGfnTree slot s t) :
    (∀ p fuel : ℕ, (slot p).isSome → s.node p ≠ none → NodePtr p →
      (∀ q ∈ t.toList, (slotAt slot q).base_gfn ≠ (slotAt slot p).base_gfn) →
      t.toList.length < fuel →
      ∃ s' t' l₁ l₂, kvm_insert_gfn_node fuel slot s p = some s' ∧ IsGfnTree slot s' t'
        ∧ t.toList = l₁ ++ l₂ ∧ t'.toList = l₁ ++ p :: l₂)
    ∧ ∀ old new : ℕ, old ∈ t.toList → new ∉ t.toList → (slot new).isSome → s.node new ≠ none →
      NodePtr new → (slotAt slot old).base_gfn = (slotAt slot new).base_gfn →
      ∃ s', kvm_replace_gfn_node s old new = some s'
        ∧ IsGfnTree slot s' (t.map (fun p => if p = old then new else p)) := by
  constructor
  · intro p fuel hp hcell hptr hnew hfuel
    obtain ⟨s', t', l₁, l₂, hs', ht', hl, hl', -⟩ :=
      kvm_insert_gfn_node_spec h hp hcell hptr hnew hfuel
    exact ⟨s', t', l₁, l₂, hs', ht', hl, hl'⟩
  · intro old new hold hnew hslot hcell hptr hbase
    obtain ⟨s', hs', ht', -⟩ := kvm_replace_gfn_node_spec h hold hnew hslot hcell hptr hbase
    exact ⟨s', hs', ht'⟩

end

/-! A tree of one node at address 16 with `base_gfn` 5, and two slots outside it: 32 with
`base_gfn` 7 and 48 with `base_gfn` 5 again. -/

def exampleSlot (p : Ptr) : Option KvmMemorySlot :=
  if p = 16 ∨ p = 48 then some ⟨5, 1, 0, .zero, 0, 0, 0⟩
  else if p = 32 then some ⟨7, 1, 0, .zero, 0, 1, 0⟩
  else none

/-- The heap with the one node of colour `c` at its root. -/
def exampleState (c : Color) : RbState where
  node p := if p = 16 then some ⟨colorBit c, 0, 0⟩
    else if p = 32 ∨ p = 48 then some ⟨0, 0, 0⟩ else none
  rb_node := 16

theorem exampleState_isTree (c : Color) : IsTree (exampleState c) (.node c .leaf 16 .leaf) := by
  refine ⟨⟨?_, trivial, trivial⟩, rfl, by simp [Ctx.labels], ?_⟩
  · simp [exampleState, mkNode]
  · intro p hp
    have hp16 : p = 16 := by simpa [Ctx.labels] using hp
    rw [hp16]
    exact ⟨by decide, by decide⟩

theorem exampleState_isGfnTree :
    IsGfnTree exampleSlot (exampleState .black) (.node .black .leaf 16 .leaf) := by
  refine ⟨exampleState_isTree .black, ⟨rfl, 1, .black .leaf .leaf⟩, ?_, ?_⟩
  · intro p hp
    have hp16 : p = 16 := by simpa using hp
    rw [hp16]
    rfl
  · simp

theorem gfn_tree_insert_replace_one_node :
    (∃ s' t' l₁ l₂, kvm_insert_gfn_node 2 exampleSlot (exampleState .black) 32 = some s'
        ∧ IsGfnTree exampleSlot s' t' ∧ [16] = l₁ ++ l₂ ∧ t'.toList = l₁ ++ 32 :: l₂)
      ∧ ∃ s', kvm_replace_gfn_node (exampleState .black) 16 48 = some s'
        ∧ IsGfnTree exampleSlot s' (.node .black .leaf 48 .leaf) := by
  have h := gfn_tree_insert_replace exampleState_isGfnTree
  constructor
  · refine h.1 32 2 rfl (by simp [exampleState]) ⟨by decide, by decide⟩ ?_ (by simp)
    intro q hq
    have hq16 : q = 16 := by simpa using hq
    rw [hq16]
    decide
  · exact h.2 16 48 (by simp) (by simp) rfl (by simp [exampleState]) ⟨by decide, by decide⟩ rfl

/-- **A black root is needed.** One red node alone is ordered, has black children, equal black
heights and a consistent parent pointer, but the insertion below it reads the colour word of a
red parent as the address of a grandparent and follows NULL, whatever the fuel. -/
theorem kvm_insert_gfn_node_red_root :
    IsTree (exampleState .red) (.node .red .leaf 16 .leaf)
      ∧ Bal (CTree.node .red .leaf (16 : ℕ) .leaf) 0
      ∧ (CTree.node .red .leaf (16 : ℕ) .leaf).toList.Pairwise
          (fun p q => (slotAt exampleSlot p).base_gfn < (slotAt exampleSlot q).base_gfn)
      ∧ (∀ q ∈ (CTree.node .red .leaf (16 : ℕ) .leaf).toList,
          (slotAt exampleSlot q).base_gfn ≠ (slotAt exampleSlot 32).base_gfn)
      ∧ ∀ fuel, kvm_insert_gfn_node fuel exampleSlot (exampleState .red) 32 = none := by
  refine ⟨exampleState_isTree .red, .red .leaf .leaf rfl rfl, by simp, ?_, ?_⟩
  · intro q hq
    have hq16 : q = 16 := by simpa using hq
    rw [hq16]
    decide
  · intro fuel
    match fuel with
    | 0 => rfl
    | 1 => rfl
    | k + 2 => rfl

section

variable {slot : Ptr → Option KvmMemorySlot} {s : RbState}

/-! ## The gfn-range iterator -/

/-- The first loop of `kvm_memslot_iter_start` finds the first slot, in order, that starts above
`start`. -/
theorem gfn_upper_bound_spec (start : ℕ) {fuel : ℕ} {t : CTree Ptr} {par : Ptr} (node : Ptr)
    (h : Rep s t par)
    (h0 : 0 ∉ t.toList) (hslots : ∀ p ∈ t.toList, (slot p).isSome)
    (hsorted : t.toList.Pairwise
      (fun p q => (slotAt slot p).base_gfn < (slotAt slot q).base_gfn))
    (hfuel : t.toList.length < fuel) :
    gfn_upper_bound slot s start fuel (rootPtr t) node
      = some ((t.toList.find? (fun p => start < (slotAt slot p).base_gfn)).getD node) := by
  induction t generalizing par node fuel with
  | leaf =>
    obtain ⟨fuel, rfl⟩ : ∃ k, fuel = k + 1 := ⟨fuel - 1, by simp at hfuel; omega⟩
    simp [gfn_upper_bound]
  | node c l a r ihl ihr =>
    obtain ⟨fuel, rfl⟩ : ∃ k, fuel = k + 1 := ⟨fuel - 1, by omega⟩
    obtain ⟨hcell, hl, hr⟩ := h
    have ha0 : a ≠ 0 := by
      rintro rfl
      exact h0 (by simp)
    have hlen : l.toList.length < fuel ∧ r.toList.length < fuel := by
      simp only [toList_node, List.length_append, List.length_cons] at hfuel
      omega
    rw [toList_node, List.pairwise_append, List.pairwise_cons] at hsorted
    obtain ⟨hsl, ⟨-, hsr⟩, hlr⟩ := hsorted
    rw [rootPtr_node, gfn_upper_bound, if_neg ha0, slot_eq_slotAt (hslots a (by simp)), hcell]
    simp only [Option.bind_eq_bind, Option.bind_some, toList_node, List.find?_append,
      List.find?_cons]
    by_cases hlt : start < (slotAt slot a).base_gfn
    · rw [if_pos hlt]
      refine (ihl a hl (fun h' => h0 (by simp [h'])) (fun p hp => hslots p (by simp [hp])) hsl
        hlen.1).trans ?_
      simp only [hlt, decide_true]
      cases List.find? (fun p => decide (start < (slotAt slot p).base_gfn)) l.toList <;> rfl
    · rw [if_neg hlt]
      refine (ihr node hr (fun h' => h0 (by simp [h'])) (fun p hp => hslots p (by simp [hp])) hsr
        hlen.2).trans ?_
      have hnone : l.toList.find? (fun p => decide (start < (slotAt slot p).base_gfn)) = none := by
        rw [List.find?_eq_none]
        intro p hp
        have := hlr p hp a (by simp)
        simp only [decide_eq_true_eq]
        omega
      rw [hnone]
      simp [hlt]

/-- The frame after the last one of a slot. -/
def slotEnd (slot : Ptr → Option KvmMemorySlot) (p : Ptr) : ℕ :=
  (slotAt slot p).base_gfn + (slotAt slot p).npages

/-- Slots in ascending order that are not empty, do not wrap around and do not meet. -/
structure DisjointSlots (slot : Ptr → Option KvmMemorySlot) (l : List Ptr) : Prop where
  slots : ∀ p ∈ l, (slot p).isSome
  pos : ∀ p ∈ l, 0 < (slotAt slot p).npages
  nowrap : ∀ p ∈ l, slotEnd slot p < 2 ^ 64
  disjoint : l.Pairwise (fun p q => slotEnd slot p ≤ (slotAt slot q).base_gfn)

/-- Slots with the same ranges. -/
theorem DisjointSlots.congr {slot slot' : Ptr → Option KvmMemorySlot} {l : List Ptr}
    (h : DisjointSlots slot l) (hslot : ∀ p ∈ l, (slot' p).isSome)
    (hbase : ∀ p ∈ l, (slotAt slot' p).base_gfn = (slotAt slot p).base_gfn)
    (hnp : ∀ p ∈ l, (slotAt slot' p).npages = (slotAt slot p).npages) : DisjointSlots slot' l := by
  have hend : ∀ p ∈ l, slotEnd slot' p = slotEnd slot p := fun p hp => by
    rw [slotEnd, slotEnd, hbase p hp, hnp p hp]
  refine ⟨hslot, ?_, ?_, ?_⟩
  · intro p hp
    rw [hnp p hp]
    exact h.pos p hp
  · intro p hp
    rw [hend p hp]
    exact h.nowrap p hp
  · refine h.disjoint.imp_of_mem ?_
    intro p q hp hq hpq
    rw [hend p hp, hbase q hq]
    exact hpq

/-- The last step of `kvm_memslot_iter_start`, from a slot that starts at or before `start` and
whose predecessors have all ended: this slot if it ends after `start`, else its successor. -/
theorem iter_start_step {start fuel : ℕ} {t : CTree Ptr} {a : Ptr} {l₁ l₂ : List Ptr}
    (ht : IsTree s t) (hl : t.toList = l₁ ++ a :: l₂) (hfuel : t.toList.length < fuel)
    (hd : DisjointSlots slot t.toList) (ha : (slotAt slot a).base_gfn ≤ start)
    (hnext : ∀ p ∈ l₂, start < (slotAt slot p).base_gfn) :
    (if (slotEnd slot a) % 2 ^ 64 ≤ start then rb_next fuel s a else some a)
      = some ((t.toList.find? (fun p => start < slotEnd slot p)).getD 0) := by
  have hmem : a ∈ t.toList := by simp [hl]
  rw [Nat.mod_eq_of_lt (hd.nowrap a hmem)]
  have hdis := hd.disjoint
  rw [hl, List.pairwise_append] at hdis
  have hbefore : l₁.find? (fun p => decide (start < slotEnd slot p)) = none := by
    rw [List.find?_eq_none]
    intro p hp
    have := hdis.2.2 p hp a (by simp)
    simp only [decide_eq_true_eq]
    omega
  rw [hl, List.find?_append, hbefore, Option.none_or, List.find?_cons]
  by_cases he : slotEnd slot a ≤ start
  · have hnot : ¬ start < slotEnd slot a := by omega
    rw [if_pos he, rb_next_spec ht hl hfuel]
    simp only [hnot, decide_false]
    -- the successor starts, hence ends, after `start`
    cases l₂ with
    | nil => rfl
    | cons b l₂ =>
      have hb := hnext b (by simp)
      have hlt : start < slotEnd slot b := Nat.lt_add_right _ hb
      simp [hlt]
  · have hlt : start < slotEnd slot a := by omega
    rw [if_neg he]
    simp [hlt]

/-- **Start of the iterator.** It is at the first slot that ends after `start`. -/
theorem kvm_memslot_iter_start_spec (start : ℕ) {fuel : ℕ} {t : CTree Ptr} (ht : IsTree s t)
    (hd : DisjointSlots slot t.toList) (hfuel : t.toList.length < fuel) :
    kvm_memslot_iter_start fuel slot s start
      = some ((t.toList.find? (fun p => start < slotEnd slot p)).getD 0) := by
  have h0 : 0 ∉ t.toList := fun h' => (ht.ptr 0 (List.mem_append_left _ h')).1 rfl
  have hroot : s.rb_node = rootPtr t := ht.repCtx
  have hsorted : t.toList.Pairwise
      (fun p q => (slotAt slot p).base_gfn < (slotAt slot q).base_gfn) := by
    refine hd.disjoint.imp_of_mem ?_
    intro p q hp _ hpq
    have := hd.pos p hp
    rw [slotEnd] at hpq
    omega
  have hub := gfn_upper_bound_spec start 0 ht.rep h0 hd.slots hsorted hfuel
  have htail : ∀ a ∈ t.toList, kvm_memslot_iter_back fuel s
        ((t.toList.find? (fun p => start < (slotAt slot p).base_gfn)).getD 0) = some a →
      kvm_memslot_iter_start fuel slot s start
        = if (slotEnd slot a) % 2 ^ 64 ≤ start then rb_next fuel s a else some a := by
    intro a ha hback
    have ha0 : a ≠ 0 := fun e => h0 (e ▸ ha)
    rw [kvm_memslot_iter_start, hroot, hub]
    simp only [Option.bind_eq_bind, Option.bind_some]
    rw [hback, Option.bind_some, if_pos ha0, slot_eq_slotAt (hd.slots a ha), Option.bind_some]
    rfl
  cases hfind : t.toList.find? (fun p => decide (start < (slotAt slot p).base_gfn)) with
  | none =>
    rw [List.find?_eq_none] at hfind
    rcases List.eq_nil_or_concat t.toList with hnil | ⟨l₁, a, hl⟩
    · rw [kvm_memslot_iter_start, hroot, hub, hnil]
      have hlast := rb_last_spec ht hfuel
      rw [hnil] at hlast
      simp [kvm_memslot_iter_back, hlast]
    · -- all slots start at or below `start`: the last one is where the loop steps back to
      rw [List.concat_eq_append] at hl
      have hmem : a ∈ t.toList := by simp [hl]
      have hback : kvm_memslot_iter_back fuel s
          ((t.toList.find? (fun p => start < (slotAt slot p).base_gfn)).getD 0) = some a := by
        rw [List.find?_eq_none.2 hfind, Option.getD_none, kvm_memslot_iter_back,
          if_neg (by simp), rb_last_spec ht hfuel, hl]
        simp
      rw [htail a hmem hback]
      refine iter_start_step ht hl hfuel hd ?_ (by simp)
      have := hfind a hmem
      simpa using this
  | some b =>
    obtain ⟨hb, l₁, l₂, hl, hl1⟩ := List.find?_eq_some_iff_append.1 hfind
    have hbmem : b ∈ t.toList := by simp [hl]
    have hb0 : b ≠ 0 := fun e => h0 (e ▸ hbmem)
    have hb' : start < (slotAt slot b).base_gfn := by simpa using hb
    have hafter : ∀ p ∈ b :: l₂, start < (slotAt slot p).base_gfn := by
      intro p hp
      rcases List.mem_cons.1 hp with rfl | hp
      · exact hb'
      · rw [hl, List.pairwise_append, List.pairwise_cons] at hsorted
        exact hb'.trans (hsorted.2.1.1 p hp)
    rcases List.eq_nil_or_concat l₁ with rfl | ⟨l₀, a, rfl⟩
    · -- the very first slot already starts above `start`
      have hback : kvm_memslot_iter_back fuel s
          ((t.toList.find? (fun p => start < (slotAt slot p).base_gfn)).getD 0) = some b := by
        rw [hfind, Option.getD_some, kvm_memslot_iter_back, if_pos hb0, rb_prev_spec ht hl hfuel]
        rfl
      have hlt : start < slotEnd slot b := Nat.lt_add_right _ hb'
      rw [htail b hbmem hback, Nat.mod_eq_of_lt (hd.nowrap b hbmem), if_neg (by omega), hl]
      simp [hlt]
    · -- `a` is the last slot that starts at or below `start`, and the only one that may reach it
      rw [List.concat_eq_append] at hl hl1
      have hl' : t.toList = l₀ ++ a :: (b :: l₂) := by simp [hl]
      have hmem : a ∈ t.toList := by simp [hl']
      have ha0 : a ≠ 0 := fun e => h0 (e ▸ hmem)
      have hback : kvm_memslot_iter_back fuel s
          ((t.toList.find? (fun p => start < (slotAt slot p).base_gfn)).getD 0) = some a := by
        rw [hfind, Option.getD_some, kvm_memslot_iter_back, if_pos hb0, rb_prev_spec ht hl hfuel]
        simp [ha0]
      rw [htail a hmem hback]
      refine iter_start_step ht hl' hfuel hd ?_ hafter
      have := hl1 a (by simp)
      simpa using this

/-- The loop of `kvm_check_memslot_overlap` from a suffix of the slots. -/
theorem check_overlap_loop_spec {id stop rbFuel fuel : ℕ} {t : CTree Ptr} {l₁ l₂ : List Ptr}
    (ht : IsTree s t) (hl : t.toList = l₁ ++ l₂) (hd : DisjointSlots slot t.toList)
    (hrb : t.toList.length < rbFuel) (hfuel : l₂.length < fuel) :
    check_overlap_loop rbFuel slot s id stop fuel (l₂.headD 0)
      = some (l₂.any (fun p => (slotAt slot p).base_gfn < stop ∧ (slotAt slot p).id ≠ id)) := by
  induction l₂ generalizing l₁ fuel with
  | nil =>
    obtain ⟨fuel, rfl⟩ : ∃ k, fuel = k + 1 := ⟨fuel - 1, by simp at hfuel; omega⟩
    simp [check_overlap_loop, kvm_memslot_iter_is_valid]
  | cons a l₂ ih =>
    obtain ⟨fuel, rfl⟩ : ∃ k, fuel = k + 1 := ⟨fuel - 1, by omega⟩
    have hmem : a ∈ t.toList := by simp [hl]
    have ha0 : a ≠ 0 := (ht.ptr a (List.mem_append_left _ hmem)).1
    have hslot := slot_eq_slotAt (hd.slots a hmem)
    rw [check_overlap_loop, List.headD_cons, kvm_memslot_iter_is_valid, if_neg ha0, hslot,
      Option.map_some]
    simp only [Option.bind_eq_bind, Option.bind_some, List.any_cons, decide_eq_true_eq]
    by_cases hlt : (slotAt slot a).base_gfn < stop
    · rw [if_pos hlt]
      by_cases hid : (slotAt slot a).id ≠ id
      · simp [hid, hlt]
      · rw [if_neg hid, rb_next_spec ht hl hrb, Option.bind_some]
        have hl' : t.toList = (l₁ ++ [a]) ++ l₂ := by simp [hl]
        have hlen : l₂.length < fuel := by
          simp only [List.length_cons] at hfuel
          omega
        rw [ih hl' hlen]
        simp [hid]
    · -- every later slot starts at or after the end of this one
      rw [if_neg hlt]
      have hdis := hd.disjoint
      rw [hl, List.pairwise_append, List.pairwise_cons] at hdis
      have hrest : l₂.any (fun p => decide ((slotAt slot p).base_gfn < stop
          ∧ (slotAt slot p).id ≠ id)) = false := by
        rw [List.any_eq_false]
        intro p hp
        have := hdis.2.1.1 p hp
        rw [slotEnd] at this
        simp only [decide_eq_true_eq]
        omega
      rw [hrest]
      simp [hlt]

/-- The slots in order, cut before the first one that ends after `start`: this is where the iterator
starts. -/
theorem slots_from_start (start : ℕ) {l : List Ptr} (hd : DisjointSlots slot l) :
    ∃ l₁ l₂, l = l₁ ++ l₂
      ∧ (l.find? (fun p => start < slotEnd slot p)).getD 0 = l₂.headD 0
      ∧ (∀ p ∈ l₁, ¬ start < slotEnd slot p) ∧ ∀ p ∈ l₂, start < slotEnd slot p := by
  cases hfind : l.find? (fun p => decide (start < slotEnd slot p)) with
  | none =>
    rw [List.find?_eq_none] at hfind
    exact ⟨l, [], by simp, rfl, fun p hp => by simpa using hfind p hp, by simp⟩
  | some b =>
    obtain ⟨hb, l₁, l₂, hl, hl1⟩ := List.find?_eq_some_iff_append.1 hfind
    refine ⟨l₁, b :: l₂, hl, rfl, fun p hp => by simpa using hl1 p hp, ?_⟩
    intro p hp
    have hb' : start < slotEnd slot b := by simpa using hb
    rcases List.mem_cons.1 hp with rfl | hp
    · exact hb'
    · have hdis := hd.disjoint
      rw [hl, List.pairwise_append, List.pairwise_cons] at hdis
      have := hdis.2.1.1 p hp
      have hp' : (slotAt slot p).base_gfn ≤ slotEnd slot p := Nat.le_add_right _ _
      omega

/-- **The overlap check** is true exactly if a slot of another id meets `[start, stop)`. -/
theorem kvm_check_memslot_overlap_spec (id start stop : ℕ) {fuel : ℕ} {t : CTree Ptr}
    (ht : IsTree s t)
    (hd : DisjointSlots slot t.toList) (hfuel : t.toList.length < fuel) :
    ∃ b, kvm_check_memslot_overlap fuel slot s id start stop = some b
      ∧ (b = true ↔ ∃ p ∈ t.toList, start < slotEnd slot p ∧ (slotAt slot p).base_gfn < stop
          ∧ (slotAt slot p).id ≠ id) := by
  have hstart := kvm_memslot_iter_start_spec start ht hd hfuel
  obtain ⟨l₁, l₂, hl, hfirst, hpre, hsuf⟩ := slots_from_start start hd
  have hlen : l₂.length < fuel := by
    rw [hl, List.length_append] at hfuel
    omega
  refine ⟨l₂.any (fun p => (slotAt slot p).base_gfn < stop ∧ (slotAt slot p).id ≠ id), ?_, ?_⟩
  · rw [kvm_check_memslot_overlap, hstart, hfirst]
    exact check_overlap_loop_spec ht hl hd hfuel hlen
  · rw [List.any_eq_true]
    constructor
    · rintro ⟨p, hp, hpp⟩
      have hpp' := of_decide_eq_true hpp
      exact ⟨p, by simp [hl, hp], hsuf p hp, hpp'.1, hpp'.2⟩
    · rintro ⟨p, hp, h1, h2, h3⟩
      rw [hl, List.mem_append] at hp
      rcases hp with hp | hp
      · exact absurd h1 (hpre p hp)
      · exact ⟨p, hp, decide_eq_true ⟨h2, h3⟩⟩

/-! ## The range loop -/

/-- The rounds of `kvm_for_each_memslot_in_gfn_range` from a node on: the slots that the body sees.
`kvm_memslot_iter_next` is `rb_next`. -/
def for_each_memslot (rbFuel : ℕ) (slot : Ptr → Option KvmMemorySlot) (s : RbState) (stop : ℕ) :
    ℕ → Ptr → Option (List Ptr)
  | 0, _ => none
  | fuel + 1, cur => do
    if ← kvm_memslot_iter_is_valid slot cur stop then do
      let next ← rb_next rbFuel s cur
      let rest ← for_each_memslot rbFuel slot s stop fuel next
      pure (cur :: rest)
    else pure []

/-- `kvm_for_each_memslot_in_gfn_range`. -/
def kvm_for_each_memslot_in_gfn_range (fuel : ℕ) (slot : Ptr → Option KvmMemorySlot) (s : RbState)
    (start stop : ℕ) : Option (List Ptr) := do
  let first ← kvm_memslot_iter_start fuel slot s start
  for_each_memslot fuel slot s stop fuel first

/-- A frame of the range lies in the slot. -/
def MeetsRange (slot : Ptr → Option KvmMemorySlot) (p : Ptr) (start stop : ℕ) : Prop :=
  ∃ g, start ≤ g ∧ g < stop ∧ (slotAt slot p).base_gfn ≤ g ∧ g < slotEnd slot p

theorem meetsRange_iff {start stop : ℕ} {p : Ptr} (hrange : start < stop)
    (hpos : 0 < (slotAt slot p).npages) :
    MeetsRange slot p start stop ↔ start < slotEnd slot p ∧ (slotAt slot p).base_gfn < stop := by
  constructor
  · rintro ⟨g, h1, h2, h3, h4⟩
    omega
  · rintro ⟨h1, h2⟩
    have hend : (slotAt slot p).base_gfn < slotEnd slot p := Nat.lt_add_of_pos_right hpos
    exact ⟨max start (slotAt slot p).base_gfn, by omega, by omega, by omega, by omega⟩

/-- The loop from a suffix of the slots. -/
theorem for_each_memslot_spec {stop rbFuel fuel : ℕ} {t : CTree Ptr} {l₁ l₂ : List Ptr}
    (ht : IsTree s t) (hl : t.toList = l₁ ++ l₂) (hd : DisjointSlots slot t.toList)
    (hrb : t.toList.length < rbFuel) (hfuel : l₂.length < fuel) :
    for_each_memslot rbFuel slot s stop fuel (l₂.headD 0) =
      some (l₂.filter fun p => (slotAt slot p).base_gfn < stop) := by
  induction l₂ generalizing l₁ fuel with
  | nil =>
    obtain ⟨fuel, rfl⟩ : ∃ k, fuel = k + 1 := ⟨fuel - 1, by simp at hfuel; omega⟩
    simp [for_each_memslot, kvm_memslot_iter_is_valid]
  | cons a l₂ ih =>
    obtain ⟨fuel, rfl⟩ : ∃ k, fuel = k + 1 := ⟨fuel - 1, by omega⟩
    have hmem : a ∈ t.toList := by simp [hl]
    have ha0 : a ≠ 0 := (ht.ptr a (List.mem_append_left _ hmem)).1
    rw [for_each_memslot, List.headD_cons, kvm_memslot_iter_is_valid, if_neg ha0,
      slot_eq_slotAt (hd.slots a hmem), Option.map_some]
    simp only [Option.bind_eq_bind, Option.bind_some, decide_eq_true_eq, List.filter_cons]
    by_cases hlt : (slotAt slot a).base_gfn < stop
    · have hl' : t.toList = (l₁ ++ [a]) ++ l₂ := by simp [hl]
      have hlen : l₂.length < fuel := by
        simp only [List.length_cons] at hfuel
        omega
      rw [if_pos hlt, if_pos hlt, rb_next_spec ht hl hrb, Option.bind_some, ih hl' hlen]
      rfl
    · -- every later slot starts at or after the end of this one
      have hdis := hd.disjoint
      rw [hl, List.pairwise_append, List.pairwise_cons] at hdis
      have hrest : l₂.filter (fun p => decide ((slotAt slot p).base_gfn < stop)) = [] := by
        rw [List.filter_eq_nil_iff]
        intro p hp
        have := hdis.2.1.1 p hp
        rw [slotEnd] at this
        simp only [decide_eq_true_eq]
        omega
      rw [if_neg hlt, if_neg hlt, hrest]
      rfl

/-- **The range loop.** Over a search tree of slots that are not empty, do not wrap around and do not
meet, `kvm_for_each_memslot_in_gfn_range` ends and visits, in ascending order, exactly the slots
that meet the range; so the overlap check is true exactly if one of them has another id. -/
theorem for_each_memslot_in_gfn_range_exact {start stop fuel : ℕ} {t : CTree Ptr}
    (hrange : start < stop) (ht : IsTree s t) (hd : DisjointSlots slot t.toList)
    (hfuel : t.toList.length < fuel) :
    ∃ visits, kvm_for_each_memslot_in_gfn_range fuel slot s start stop = some visits ∧
      visits.Pairwise (fun p q => (slotAt slot p).base_gfn < (slotAt slot q).base_gfn) ∧
      (∀ p, p ∈ visits ↔ p ∈ t.toList ∧ MeetsRange slot p start stop) ∧
      ∀ id, ∃ b, kvm_check_memslot_overlap fuel slot s id start stop = some b ∧
        (b = true ↔ ∃ p ∈ t.toList, (slotAt slot p).id ≠ id ∧ MeetsRange slot p start stop) := by
  have hstart := kvm_memslot_iter_start_spec start ht hd hfuel
  obtain ⟨l₁, l₂, hl, hfirst, hpre, hsuf⟩ := slots_from_start start hd
  have hmeets : ∀ p ∈ t.toList, MeetsRange slot p start stop ↔
      start < slotEnd slot p ∧ (slotAt slot p).base_gfn < stop := fun p hp =>
    meetsRange_iff hrange (hd.pos p hp)
  have hlen : l₂.length < fuel := by
    rw [hl, List.length_append] at hfuel
    omega
  have hsorted : l₂.Pairwise
      (fun p q => (slotAt slot p).base_gfn < (slotAt slot q).base_gfn) := by
    have hdis := hd.disjoint
    rw [hl, List.pairwise_append] at hdis
    refine hdis.2.1.imp_of_mem ?_
    intro p q hp _ hpq
    have := hd.pos p (by simp [hl, hp])
    rw [slotEnd] at hpq
    omega
  refine ⟨l₂.filter fun p => (slotAt slot p).base_gfn < stop, ?_, hsorted.filter _, ?_, ?_⟩
  · rw [kvm_for_each_memslot_in_gfn_range, hstart, hfirst]
    exact for_each_memslot_spec ht hl hd hfuel hlen
  · intro p
    rw [List.mem_filter, decide_eq_true_eq]
    constructor
    · rintro ⟨hp, hlt⟩
      have hmem : p ∈ t.toList := by simp [hl, hp]
      exact ⟨hmem, (hmeets p hmem).mpr ⟨hsuf p hp, hlt⟩⟩
    · rintro ⟨hmem, hp⟩
      obtain ⟨h1, h2⟩ := (hmeets p hmem).mp hp
      rw [hl, List.mem_append] at hmem
      rcases hmem with hmem | hmem
      · exact absurd h1 (hpre p hmem)
      · exact ⟨hmem, h2⟩
  · intro id
    obtain ⟨b, hb, hiff⟩ := kvm_check_memslot_overlap_spec id start stop ht hd hfuel
    refine ⟨b, hb, hiff.trans ⟨?_, ?_⟩⟩
    · rintro ⟨p, hp, h1, h2, hid⟩
      exact ⟨p, hp, hid, (hmeets p hp).mpr ⟨h1, h2⟩⟩
    · rintro ⟨p, hp, hid, hm⟩
      obtain ⟨h1, h2⟩ := (hmeets p hp).mp hm
      exact ⟨p, hp, h1, h2, hid⟩

/-- The one slot, which is frame 5, meets `[3, 6)`. -/
theorem for_each_memslot_one_node :
    ∃ visits, kvm_for_each_memslot_in_gfn_range 2 exampleSlot (exampleState .black) 3 6 =
        some visits ∧
      visits.Pairwise (fun p q => (slotAt exampleSlot p).base_gfn < (slotAt exampleSlot q).base_gfn) ∧
      (∀ p, p ∈ visits ↔ p ∈ [16] ∧ MeetsRange exampleSlot p 3 6) ∧
      ∀ id, ∃ b, kvm_check_memslot_overlap 2 exampleSlot (exampleState .black) id 3 6 = some b ∧
        (b = true ↔ ∃ p ∈ [16], (slotAt exampleSlot p).id ≠ id ∧ MeetsRange exampleSlot p 3 6) := by
  have hd : DisjointSlots exampleSlot (CTree.node .black .leaf (16 : ℕ) .leaf).toList := by
    refine ⟨?_, ?_, ?_, by simp⟩ <;> intro p hp <;>
      have hp16 : p = 16 := by simpa using hp
    · rw [hp16]
      rfl
    · rw [hp16]
      decide
    · rw [hp16]
      decide
  exact for_each_memslot_in_gfn_range_exact (by decide) (exampleState_isTree .black) hd (by simp)

end

end Svmx.MemSlot
