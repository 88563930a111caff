/-
What a heap of `struct rb_node` cells represents.

`Rep s t par` says that the tree `t`, labelled by node addresses, lies in the heap `s`
below the parent `par`: the cell of each node holds its parent and colour packed in one word
and the addresses of its two subtrees. `RepCtx` is the same for the part of the heap outside a
hole, up to the root pointer, and `Focus` puts the two together with what makes the addresses
usable: they are distinct, not NULL, and aligned so that the packed word can be taken apart.

Moving the focus up or down is definitional, and a function that touches a few cells changes
only what the frame lemmas (`Rep.congr`, `RepCtx.congr`) do not already carry over.
-/
import Svmx.RbTree

set_option autoImplicit false

namespace Svmx.RbTree

open ColorTree ColorTree.CTree

/-! ## Packed words -/

def colorBit : Color → ℕ
  | .red => RB_RED
  | .black => RB_BLACK

/-- An address a node can have: not NULL, two low bits clear. -/
def NodePtr (p : ℕ) : Prop := p ≠ 0 ∧ p % 4 = 0

theorem rb_parent_of_pack {p : ℕ} (c : Color) (h : p % 4 = 0) :
    rb_parent_of (p + colorBit c) = p := by
  cases c <;> simp only [rb_parent_of, colorBit, RB_RED, RB_BLACK] <;> omega

theorem rb_color_of_pack {p : ℕ} (c : Color) (h : p % 4 = 0) :
    rb_color_of (p + colorBit c) = colorBit c := by
  cases c <;> simp only [rb_color_of, colorBit, RB_RED, RB_BLACK] <;> omega

/-! ## Cells by direction -/

/-- The cell with word `pc`, child `x` on side `d` and child `y` on the other side. -/
def mkNode (d : Dir) (pc : ℕ) (x y : Ptr) : RbNode :=
  match d with
  | .left => ⟨pc, y, x⟩
  | .right => ⟨pc, x, y⟩

section mkNode

variable (d : Dir) (pc : ℕ) (x y z : Ptr)

@[simp] theorem mkNode_pc : (mkNode d pc x y).rb_parent_color = pc := by cases d <;> rfl

@[simp] theorem mkNode_child : (mkNode d pc x y).child d = x := by cases d <;> rfl

@[simp] theorem mkNode_child_flip : (mkNode d pc x y).child d.flip = y := by cases d <;> rfl

@[simp] theorem mkNode_setChild : (mkNode d pc x y).setChild z d = mkNode d pc z y := by
  cases d <;> rfl

@[simp] theorem mkNode_setChild_flip :
    (mkNode d pc x y).setChild z d.flip = mkNode d pc x z := by
  cases d <;> rfl

@[simp] theorem mkNode_with_pc (pc' : ℕ) :
    { mkNode d pc x y with rb_parent_color := pc' } = mkNode d pc' x y := by
  cases d <;> rfl

theorem mkNode_flip : mkNode d.flip pc x y = mkNode d pc y x := by cases d <;> rfl

end mkNode

/-- The parent and the colour of a packed cell read back. -/
theorem mkNode_pack_reads {d : Dir} {p x y : Ptr} (c : Color) (h : p % 4 = 0) :
    (mkNode d (p + colorBit c) x y).rb_parent = p
      ∧ (mkNode d (p + colorBit c) x y).rb_is_black = (c == .black) := by
  constructor
  · rw [RbNode.rb_parent, mkNode_pc, rb_parent_of_pack c h]
  · rw [RbNode.rb_is_black, mkNode_pc, rb_color_of_pack c h]
    cases c <;> rfl

/-! ## Writes -/

section store

variable (s : RbState) (p q : Ptr) (n : RbNode)

@[simp] theorem store_node_self : (s.store p n).node p = some n := by
  simp [RbState.store]

@[simp] theorem store_node_ne {p q : Ptr} (h : q ≠ p) : (s.store p n).node q = s.node q := by
  simp [RbState.store, Function.update_of_ne h]

@[simp] theorem store_rb_node : (s.store p n).rb_node = s.rb_node := rfl

end store

theorem set_child_eq {s : RbState} {d : Dir} {p c : Ptr} {n : RbNode} (h : s.node p = some n) :
    s.set_child d p c = some (s.store p (n.setChild c d)) := by
  simp [RbState.set_child, h]

theorem rb_set_parent_color_eq {s : RbState} {rb p : Ptr} {color : ℕ} {n : RbNode}
    (h : s.node rb = some n) :
    rb_set_parent_color s rb p color
      = some (s.store rb { n with rb_parent_color := p + color }) := by
  simp [rb_set_parent_color, h]

/-! ## The representation relation -/

/-- The address of a tree's root node; NULL for the empty tree. -/
def rootPtr : CTree Ptr → ℕ
  | .leaf => 0
  | .node _ _ p _ => p

@[simp] theorem rootPtr_leaf : rootPtr .leaf = 0 := rfl

@[simp] theorem rootPtr_node (c : Color) (l : CTree Ptr) (p : Ptr) (r : CTree Ptr) :
    rootPtr (.node c l p r) = p := rfl

@[simp] theorem rootPtr_build (d : Dir) (c : Color) (x : CTree Ptr) (p : Ptr) (y : CTree Ptr) :
    rootPtr (build d c x p y) = p := by cases d <;> rfl

@[simp] theorem rootPtr_blacken (t : CTree Ptr) : rootPtr t.blacken = rootPtr t := by
  cases t <;> rfl

/-- A root pointer is NULL or a node of the tree. -/
theorem rootPtr_eq_zero_or_mem (t : CTree Ptr) : t = .leaf ∨ rootPtr t ∈ t.toList := by
  cases t with
  | leaf => exact .inl rfl
  | node c l p r => exact .inr (by simp)

/-- The tree lies in the heap below the parent `par`. -/
def Rep (s : RbState) : CTree Ptr → Ptr → Prop
  | .leaf, _ => True
  | .node c l p r, par =>
      s.node p = some (mkNode .left (par + colorBit c) (rootPtr l) (rootPtr r))
        ∧ Rep s l p ∧ Rep s r p

theorem rep_build {s : RbState} {d : Dir} {c : Color} {x y : CTree Ptr} {p par : Ptr} :
    Rep s (build d c x p y) par
      ↔ s.node p = some (mkNode d (par + colorBit c) (rootPtr x) (rootPtr y))
        ∧ Rep s x p ∧ Rep s y p := by
  cases d
  · exact Iff.rfl
  · refine ⟨fun ⟨h, hy, hx⟩ => ⟨h, hx, hy⟩, fun ⟨h, hx, hy⟩ => ⟨h, hy, hx⟩⟩

/-- A tree is where it was if its cells are. -/
theorem Rep.congr {s s' : RbState} {t : CTree Ptr} {par : Ptr} (h : Rep s t par)
    (hs : ∀ q ∈ t.toList, s'.node q = s.node q) : Rep s' t par := by
  induction t generalizing par with
  | leaf => trivial
  | node c l p r ihl ihr =>
    obtain ⟨hp, hl, hr⟩ := h
    refine ⟨?_, ihl hl fun q hq => hs q (by simp [hq]), ihr hr fun q hq => hs q (by simp [hq])⟩
    rw [hs p (by simp), hp]

/-- A heap holds one tree below a pointer: its labels are determined by the cells. -/
theorem Rep.toList_unique {s : RbState} {t t' : CTree Ptr} {par par' : Ptr} (h : Rep s t par)
    (h' : Rep s t' par') (h0 : 0 ∉ t.toList) (h0' : 0 ∉ t'.toList) (hroot : rootPtr t = rootPtr t') :
    t.toList = t'.toList := by
  induction t generalizing t' par par' with
  | leaf =>
    rcases rootPtr_eq_zero_or_mem t' with rfl | hmem
    · rfl
    · exact absurd (show rootPtr t' = 0 from hroot.symm) (fun heq => h0' (heq ▸ hmem))
  | node c l p r ihl ihr =>
    cases t' with
    | leaf => exact absurd (show p = 0 from hroot) (fun heq => h0 (by simp [heq]))
    | node c' l' p' r' =>
      obtain rfl : p = p' := hroot
      obtain ⟨hp, hl, hr⟩ := h
      obtain ⟨hp', hl', hr'⟩ := h'
      rw [hp, mkNode, mkNode, Option.some.injEq, RbNode.mk.injEq] at hp'
      simp only [CTree.toList, List.mem_append, List.mem_cons, not_or] at h0 h0'
      have hll := ihl hl hl' h0.1 h0'.1 (by simpa using hp'.2.2)
      have hrr := ihr hr hr' h0.2.2 h0'.2.2 (by simpa using hp'.2.1)
      simp only [CTree.toList, hll, hrr]

/-- The parent of a hole; NULL at the root. -/
def ctxPtr : Ctx Ptr → ℕ
  | [] => 0
  | f :: _ => f.label

@[simp] theorem ctxPtr_nil : ctxPtr [] = 0 := rfl

@[simp] theorem ctxPtr_cons (f : Frame Ptr) (up : Ctx Ptr) : ctxPtr (f :: up) = f.label := rfl

/-- The heap around a hole that holds the pointer `cp`. -/
def RepCtx (s : RbState) : Ctx Ptr → Ptr → Prop
  | [], cp => s.rb_node = cp
  | f :: up, cp =>
      s.node f.label = some (mkNode f.dir (ctxPtr up + colorBit f.color) cp (rootPtr f.sib))
        ∧ Rep s f.sib f.label ∧ RepCtx s up f.label

theorem RepCtx.congr {s s' : RbState} {ctx : Ctx Ptr} {cp : Ptr} (h : RepCtx s ctx cp)
    (hroot : s'.rb_node = s.rb_node)
    (hs : ∀ q ∈ Ctx.labels ctx, s'.node q = s.node q) : RepCtx s' ctx cp := by
  induction ctx generalizing cp with
  | nil => exact hroot.trans h
  | cons f up ih =>
    obtain ⟨hp, hsib, hup⟩ := h
    refine ⟨?_, hsib.congr fun q hq => hs q ?_, ih hup fun q hq => hs q ?_⟩
    · rw [hs f.label (by simp [Ctx.labels]), hp]
    · simp [Ctx.labels, hq]
    · simp [Ctx.labels, hq]

/-- A tree in focus and the heap around it. -/
structure Focus (s : RbState) (t : CTree Ptr) (ctx : Ctx Ptr) : Prop where
  rep : Rep s t (ctxPtr ctx)
  repCtx : RepCtx s ctx (rootPtr t)
  nodup : (t.toList ++ Ctx.labels ctx).Nodup
  ptr : ∀ p ∈ t.toList ++ Ctx.labels ctx, NodePtr p

/-- The heap's tree: `struct rb_root` holds `t`. -/
abbrev IsTree (s : RbState) (t : CTree Ptr) : Prop := Focus s t []

/-- The focus moves up one node. -/
theorem focus_up {s : RbState} {t : CTree Ptr} {f : Frame Ptr} {up : Ctx Ptr} :
    Focus s t (f :: up) ↔ Focus s (build f.dir f.color t f.label f.sib) up := by
  have hperm : (t.toList ++ Ctx.labels (f :: up)).Perm
      ((build f.dir f.color t f.label f.sib).toList ++ Ctx.labels up) :=
    ((Ctx.perm_plug t (f :: up)).symm).trans (Ctx.perm_plug _ up)
  constructor
  · rintro ⟨hrep, ⟨hcell, hsib, hup⟩, hnd, hptr⟩
    refine ⟨rep_build.mpr ⟨hcell, hrep, hsib⟩, by rwa [rootPtr_build],
      hperm.nodup_iff.mp hnd, fun p hp => hptr p (hperm.mem_iff.mpr hp)⟩
  · rintro ⟨hrep, hup, hnd, hptr⟩
    obtain ⟨hcell, ht, hsib⟩ := rep_build.mp hrep
    rw [rootPtr_build] at hup
    exact ⟨ht, ⟨hcell, hsib, hup⟩, hperm.nodup_iff.mpr hnd,
      fun p hp => hptr p (hperm.mem_iff.mp hp)⟩

/-- The focus moves to the root. -/
theorem focus_iff_isTree {s : RbState} {t : CTree Ptr} {ctx : Ctx Ptr} :
    Focus s t ctx ↔ IsTree s (Ctx.plug t ctx) := by
  induction ctx generalizing t with
  | nil => exact Iff.rfl
  | cons f up ih => rw [focus_up, ih, Ctx.plug_cons]

/-- The parent of a focus is NULL or a node outside it; either way its low bits are clear. -/
theorem Focus.ctxPtr_mod {s : RbState} {t : CTree Ptr} {ctx : Ctx Ptr} (h : Focus s t ctx) :
    ctxPtr ctx % 4 = 0 := by
  cases ctx with
  | nil => rfl
  | cons f up => exact (h.ptr f.label (by simp [Ctx.labels])).2

/-! ## Specifications of the pointer helpers -/

/-- Writing the word of the root moves the tree under another parent, in another colour. -/
theorem Rep.store_root {s : RbState} {c : Color} {l r : CTree Ptr} {r0 par : Ptr}
    (h : Rep s (.node c l r0 r) par) (hnd : (CTree.node c l r0 r).toList.Nodup) (c' : Color) (p : Ptr) :
    Rep (s.store r0 (mkNode .left (p + colorBit c') (rootPtr l) (rootPtr r))) (.node c' l r0 r) p := by
  obtain ⟨-, hl, hr⟩ := h
  rw [toList_node] at hnd
  have hnl : r0 ∉ l.toList := fun hm => by
    have := List.disjoint_of_nodup_append hnd hm
    simp at this
  have hnr : r0 ∉ r.toList := (List.nodup_cons.mp hnd.of_append_right).1
  refine ⟨store_node_self .., hl.congr ?_, hr.congr ?_⟩
  · intro q hq
    exact store_node_ne _ _ (fun h => hnl (h ▸ hq))
  · intro q hq
    exact store_node_ne _ _ (fun h => hnr (h ▸ hq))

/-- `if (tmp) rb_set_parent_color(tmp, p, RB_BLACK)` moves the tree at `tmp` under `p` with a
black root. -/
theorem rb_set_parent_black_if_spec {s : RbState} {t : CTree Ptr} {par : Ptr} (p : Ptr)
    (h : Rep s t par) (hnd : t.toList.Nodup) (h0 : 0 ∉ t.toList) :
    ∃ s', rb_set_parent_black_if s (rootPtr t) p = some s' ∧ Rep s' t.blacken p
      ∧ s'.rb_node = s.rb_node ∧ ∀ q, q ∉ t.toList → s'.node q = s.node q := by
  cases t with
  | leaf => exact ⟨s, by simp [rb_set_parent_black_if], trivial, rfl, fun _ _ => rfl⟩
  | node c l r0 r =>
    have hr0 : r0 ≠ 0 := by rintro rfl; simp at h0
    refine ⟨s.store r0 (mkNode .left (p + colorBit .black) (rootPtr l) (rootPtr r)), ?_,
      h.store_root hnd .black p, rfl, ?_⟩
    · rw [rb_set_parent_black_if, rootPtr_node, if_pos hr0, rb_set_parent_color_eq h.1,
        mkNode_with_pc]
      rfl
    · intro q hq
      exact store_node_ne _ _ (fun h => hq (by simp [h]))

/-- `__rb_change_child` exchanges the pointer in the hole. -/
theorem rb_change_child_spec {s : RbState} {ctx : Ctx Ptr} {old : Ptr} (new : Ptr)
    (h : RepCtx s ctx old) (hold : old ≠ 0) (hmem : old ∉ Ctx.labels ctx)
    (hnd : (Ctx.labels ctx).Nodup) (h0 : 0 ∉ Ctx.labels ctx) :
    ∃ s', rb_change_child s old new (ctxPtr ctx) = some s' ∧ RepCtx s' ctx new
      ∧ ∀ q, q ∉ Ctx.labels ctx → s'.node q = s.node q := by
  cases ctx with
  | nil =>
    exact ⟨{ s with rb_node := new }, by simp [rb_change_child], rfl, fun _ _ => rfl⟩
  | cons f up =>
    obtain ⟨hcell, hsib, hup⟩ := h
    obtain ⟨d, c, a, sib⟩ := f
    simp only at hcell hsib hup
    simp only [Ctx.labels, List.mem_cons, List.mem_append, not_or, List.nodup_cons] at hmem hnd h0
    have ha0 : a ≠ 0 := fun h => h0.1 h.symm
    have hframe : ∀ q, q ≠ a → (s.store a (mkNode d (ctxPtr up + colorBit c) new
        (rootPtr sib))).node q = s.node q := fun q hq => store_node_ne _ _ hq
    refine ⟨s.store a (mkNode d (ctxPtr up + colorBit c) new (rootPtr sib)), ?_,
      ⟨store_node_self .., hsib.congr ?_, hup.congr rfl ?_⟩, ?_⟩
    · rw [rb_change_child, ctxPtr_cons, if_pos ha0, hcell]
      cases d with
      | left =>
        simp only [Option.bind_eq_bind, Option.bind_some]
        rw [if_pos (by rfl), set_child_eq hcell, mkNode_setChild]
      | right =>
        -- the other child is a node of the sibling tree or NULL, so it is not `old`
        have hne : (mkNode .right (ctxPtr up + colorBit c) old (rootPtr sib)).rb_left ≠ old := by
          change rootPtr sib ≠ old
          rintro rfl
          rcases rootPtr_eq_zero_or_mem sib with rfl | hm
          · exact hold rfl
          · exact hmem.2.1 hm
        simp only [Option.bind_eq_bind, Option.bind_some]
        rw [if_neg hne, set_child_eq hcell, mkNode_setChild]
    · intro q hq
      exact hframe q fun h => hnd.1.1 (h ▸ hq)
    · intro q hq
      exact hframe q fun h => hnd.1.2 (h ▸ hq)
    · intro q hq
      exact hframe q fun h => hq (by simp [Ctx.labels, h])

end Svmx.RbTree
