/-
Red-black trees and their zippers, as mathematics.

This file names no program. A `CTree` carries a label at every node and a colour;
`Bal t n` is the red-black invariant with black height `n`; a `Ctx` is the path from a
hole up to the root, one `Frame` per ancestor, and `plug` closes it. Code that climbs a
tree through parent pointers walks a `Ctx` from its head, so the loop invariants of the
pointer-level development are statements about a focused tree and a `Ctx`.

Rotations come in mirrored pairs. Everything here is stated once, at a direction `d`:
`build d c s a o` is the node whose `d`-child is `s` and whose other child is `o`.
-/
import Mathlib.Data.List.Perm.Basic
import Mathlib.Data.List.Nodup
import Mathlib.Tactic.Common

set_option autoImplicit false

namespace ColorTree

variable {α : Type*}

/-! ## Trees -/

inductive Color where
  | red
  | black
deriving DecidableEq, Repr

inductive Dir where
  | left
  | right
deriving DecidableEq, Repr

/-- The other side. -/
def Dir.flip : Dir → Dir
  | .left => .right
  | .right => .left

@[simp] theorem Dir.flip_flip (d : Dir) : d.flip.flip = d := by cases d <;> rfl

@[simp] theorem Dir.flip_ne (d : Dir) : d.flip ≠ d := by cases d <;> decide

inductive CTree (α : Type*) where
  | leaf
  | node (c : Color) (l : CTree α) (a : α) (r : CTree α)
deriving DecidableEq, Repr

namespace CTree

/-- The node whose `d`-child is `s` and whose other child is `o`. -/
def build (d : Dir) (c : Color) (s : CTree α) (a : α) (o : CTree α) : CTree α :=
  match d with
  | .left => .node c s a o
  | .right => .node c o a s

/-- The labels in order. -/
def toList : CTree α → List α
  | leaf => []
  | node _ l a r => l.toList ++ a :: r.toList

/-- The empty tree counts as black. -/
def color : CTree α → Color
  | leaf => .black
  | node c _ _ _ => c

/-- The same tree with a black root. -/
def blacken : CTree α → CTree α
  | leaf => leaf
  | node _ l a r => node .black l a r

@[simp] theorem toList_leaf : (leaf : CTree α).toList = [] := rfl

@[simp] theorem toList_node (c : Color) (l : CTree α) (a : α) (r : CTree α) :
    (node c l a r).toList = l.toList ++ a :: r.toList := rfl

@[simp] theorem color_leaf : (leaf : CTree α).color = .black := rfl

@[simp] theorem color_node (c : Color) (l : CTree α) (a : α) (r : CTree α) :
    (node c l a r).color = c := rfl

@[simp] theorem color_build (d : Dir) (c : Color) (s : CTree α) (a : α) (o : CTree α) :
    (build d c s a o).color = c := by cases d <;> rfl

@[simp] theorem toList_blacken (t : CTree α) : t.blacken.toList = t.toList := by
  cases t <;> rfl

@[simp] theorem color_blacken (t : CTree α) : t.blacken.color = .black := by
  cases t <;> rfl

theorem blacken_of_black {t : CTree α} (h : t.color = .black) : t.blacken = t := by
  cases t with
  | leaf => rfl
  | node c l a r => cases h; rfl

theorem mem_build {d : Dir} {c : Color} {s : CTree α} {a : α} {o : CTree α} {x : α} :
    x ∈ (build d c s a o).toList ↔ x = a ∨ x ∈ s.toList ∨ x ∈ o.toList := by
  cases d <;> simp only [build, toList_node, List.mem_append, List.mem_cons] <;> tauto

/-- How often a label occurs does not depend on the side: with it two arrangements of the same
subtrees are compared label by label. -/
theorem count_build [DecidableEq α] (d : Dir) (c : Color) (s : CTree α) (a : α) (o : CTree α) (x : α) :
    (build d c s a o).toList.count x =
      s.toList.count x + o.toList.count x + if a = x then 1 else 0 := by
  cases d with
  | left =>
    simp only [build, toList_node, List.count_append, List.count_cons, beq_iff_eq]
    omega
  | right =>
    simp only [build, toList_node, List.count_append, List.count_cons, beq_iff_eq]
    omega

/-- Every tree that is not empty is a `build` on each side. -/
theorem exists_build (d : Dir) {t : CTree α} (h : t ≠ leaf) :
    ∃ c s a o, t = build d c s a o := by
  cases t with
  | leaf => exact absurd rfl h
  | node c l a r => cases d with
    | left => exact ⟨c, l, a, r, rfl⟩
    | right => exact ⟨c, r, a, l, rfl⟩

theorem build_flip (d : Dir) (c : Color) (s : CTree α) (a : α) (o : CTree α) :
    build d.flip c s a o = build d c o a s := by cases d <;> rfl

/-- Relabel every node. -/
def map {β : Type*} (f : α → β) : CTree α → CTree β
  | leaf => leaf
  | node c l a r => node c (l.map f) (f a) (r.map f)

theorem map_build {β : Type*} (f : α → β) (d : Dir) (c : Color) (s : CTree α) (a : α)
    (o : CTree α) : (build d c s a o).map f = build d c (s.map f) (f a) (o.map f) := by
  cases d <;> rfl

/-- Relabelling that fixes the labels of a tree leaves it alone. -/
theorem map_eq_self {f : α → α} {t : CTree α} (h : ∀ x ∈ t.toList, f x = x) : t.map f = t := by
  induction t with
  | leaf => rfl
  | node c l a r ihl ihr =>
    rw [map, ihl fun x hx => h x (by simp [hx]), ihr fun x hx => h x (by simp [hx]),
      h a (by simp)]

theorem toList_map {β : Type*} (f : α → β) (t : CTree α) : (t.map f).toList = t.toList.map f := by
  induction t with
  | leaf => rfl
  | node c l a r ihl ihr => simp [map, ihl, ihr]

theorem color_map {β : Type*} (f : α → β) (t : CTree α) : (t.map f).color = t.color := by
  cases t <;> rfl

/-- The labels in order when read towards `d`. -/
def ordered (d : Dir) (t : CTree α) : List α :=
  match d with
  | .right => t.toList
  | .left => t.toList.reverse

@[simp] theorem ordered_leaf (d : Dir) : ordered d (leaf : CTree α) = [] := by cases d <;> rfl

theorem mem_ordered {d : Dir} {t : CTree α} {x : α} : x ∈ ordered d t ↔ x ∈ t.toList := by
  cases d <;> simp [ordered]

theorem ordered_build (d : Dir) (c : Color) (s : CTree α) (a : α) (o : CTree α) :
    ordered d (build d c s a o) = ordered d o ++ a :: ordered d s := by
  cases d <;> simp [ordered, build]

theorem ordered_build_flip (d : Dir) (c : Color) (s : CTree α) (a : α) (o : CTree α) :
    ordered d (build d.flip c s a o) = ordered d s ++ a :: ordered d o := by
  rw [build_flip, ordered_build]

/-- In order, a single rotation about the outer grandchild moves nothing. -/
theorem toList_rotate_outer (d : Dir) (c c' e e' : Color) (n s u : CTree α) (p g : α) :
    (build d c n p (build d.flip c' u g s)).toList
      = (build d e (build d e' n p s) g u).toList := by
  cases d <;> simp [build, Dir.flip]

/-- In order, a double rotation about the inner grandchild moves nothing. -/
theorem toList_rotate_inner (d : Dir) (c c' c'' e e' e'' : Color) (s a b u : CTree α)
    (p n g : α) :
    (build d c (build d c' s p a) n (build d.flip c'' u g b)).toList
      = (build d e (build d e' s p (build d e'' a n b)) g u).toList := by
  cases d <;> simp [build, Dir.flip]

end CTree

open CTree

/-! ## The red-black invariant -/

/-- `Bal t n`: no red node has a red child and every path to a leaf meets `n` black nodes. -/
inductive Bal : CTree α → ℕ → Prop where
  | leaf : Bal leaf 0
  | red {l r : CTree α} {a : α} {n : ℕ} (hl : Bal l n) (hr : Bal r n)
      (hlc : l.color = .black) (hrc : r.color = .black) : Bal (node .red l a r) n
  | black {l r : CTree α} {a : α} {n : ℕ} (hl : Bal l n) (hr : Bal r n) :
      Bal (node .black l a r) (n + 1)

theorem Bal.map {β : Type*} (f : α → β) {t : CTree α} {n : ℕ} (h : Bal t n) :
    Bal (t.map f) n := by
  induction h with
  | leaf => exact .leaf
  | red _ _ hlc hrc ihl ihr =>
    exact .red ihl ihr (by rw [color_map, hlc]) (by rw [color_map, hrc])
  | black _ _ ihl ihr => exact .black ihl ihr

theorem Bal.build_red {d : Dir} {s o : CTree α} {a : α} {n : ℕ} (hs : Bal s n) (ho : Bal o n)
    (hsc : s.color = .black) (hoc : o.color = .black) : Bal (build d .red s a o) n := by
  cases d
  · exact .red hs ho hsc hoc
  · exact .red ho hs hoc hsc

theorem Bal.build_black {d : Dir} {s o : CTree α} {a : α} {n : ℕ} (hs : Bal s n)
    (ho : Bal o n) : Bal (build d .black s a o) (n + 1) := by
  cases d
  · exact .black hs ho
  · exact .black ho hs

/-- What a red node's invariant says of its children. -/
theorem Bal.of_build_red {d : Dir} {s o : CTree α} {a : α} {n : ℕ}
    (h : Bal (build d .red s a o) n) :
    Bal s n ∧ Bal o n ∧ s.color = .black ∧ o.color = .black := by
  cases d <;> cases h with
  | red hl hr hlc hrc => first | exact ⟨hl, hr, hlc, hrc⟩ | exact ⟨hr, hl, hrc, hlc⟩

/-- Blackening a red root adds one to the black height. -/
theorem Bal.blacken_red {t : CTree α} {n : ℕ} (h : Bal t n) (hc : t.color = .red) :
    Bal t.blacken (n + 1) := by
  cases h with
  | leaf => cases hc
  | red hl hr _ _ => exact .black hl hr
  | black _ _ => cases hc

/-- A black tree of black height zero is empty. -/
theorem Bal.eq_leaf {t : CTree α} (h : Bal t 0) (hc : t.color = .black) : t = .leaf := by
  cases h with
  | leaf => rfl
  | red _ _ _ _ => cases hc

theorem Bal.leaf_height {n : ℕ} (h : Bal (.leaf : CTree α) n) : n = 0 := by
  cases h
  rfl

/-- A node with an empty child is red with no child at all, or black with at most a red one. -/
theorem Bal.one_child {d : Dir} {c : Color} {x : CTree α} {a : α} {n : ℕ}
    (h : Bal (build d c .leaf a x) n) :
    x = .leaf ∧ (c = .red ∧ n = 0 ∨ c = .black ∧ n = 1)
      ∨ x ≠ .leaf ∧ c = .black ∧ n = 1 ∧ Bal x.blacken 1 := by
  cases c with
  | red =>
    obtain ⟨hl, hx, -, hxc⟩ := h.of_build_red
    have hn := hl.leaf_height
    subst hn
    exact Or.inl ⟨hx.eq_leaf hxc, Or.inl ⟨rfl, rfl⟩⟩
  | black =>
    obtain ⟨m, rfl, hl, hx⟩ : ∃ m, n = m + 1 ∧ Bal (.leaf : CTree α) m ∧ Bal x m := by
      cases d <;> cases h with
      | black hl hr => first | exact ⟨_, rfl, hl, hr⟩ | exact ⟨_, rfl, hr, hl⟩
    have hm := hl.leaf_height
    subst hm
    cases hx with
    | leaf => exact Or.inl ⟨rfl, Or.inr ⟨rfl, rfl⟩⟩
    | red hl hr _ _ => exact Or.inr ⟨by simp, rfl, rfl, .black hl hr⟩

/-- A red-black tree: balanced, with a black root. -/
def IsRedBlack (t : CTree α) : Prop := t.color = .black ∧ ∃ n, Bal t n

/-! ## Zippers -/

/-- One ancestor of a hole: which side the hole is on, the ancestor, its other child. -/
structure Frame (α : Type*) where
  dir : Dir
  color : Color
  label : α
  sib : CTree α

/-- The ancestors of a hole, the nearest first. -/
abbrev Ctx (α : Type*) := List (Frame α)

namespace Ctx

/-- Close the hole with a tree. -/
def plug (t : CTree α) : Ctx α → CTree α
  | [] => t
  | f :: up => plug (build f.dir f.color t f.label f.sib) up

/-- The labels outside the hole. -/
def labels : Ctx α → List α
  | [] => []
  | f :: up => f.label :: (f.sib.toList ++ labels up)

/-- The labels left of the hole, in order. -/
def before : Ctx α → List α
  | [] => []
  | ⟨.left, _, _, _⟩ :: up => before up
  | ⟨.right, _, a, s⟩ :: up => before up ++ (s.toList ++ [a])

/-- The labels right of the hole, in order. -/
def after : Ctx α → List α
  | [] => []
  | ⟨.left, _, a, s⟩ :: up => (a :: s.toList) ++ after up
  | ⟨.right, _, _, _⟩ :: up => after up

/-- The labels beyond the hole when read towards `d`. -/
def beyond (d : Dir) (ctx : Ctx α) : List α :=
  match d with
  | .right => after ctx
  | .left => (before ctx).reverse

@[simp] theorem beyond_nil (d : Dir) : beyond d ([] : Ctx α) = [] := by cases d <;> rfl

theorem beyond_same (d : Dir) (c : Color) (a : α) (s : CTree α) (up : Ctx α) :
    beyond d (⟨d, c, a, s⟩ :: up) = beyond d up := by
  cases d <;> rfl

theorem beyond_flip (d : Dir) (c : Color) (a : α) (s : CTree α) (up : Ctx α) :
    beyond d (⟨d.flip, c, a, s⟩ :: up) = a :: (ordered d s ++ beyond d up) := by
  cases d <;> simp [beyond, before, after, ordered, Dir.flip]

@[simp] theorem plug_nil (t : CTree α) : plug t [] = t := rfl

@[simp] theorem plug_cons (t : CTree α) (f : Frame α) (up : Ctx α) :
    plug t (f :: up) = plug (build f.dir f.color t f.label f.sib) up := rfl

/-- In order, the plugged tree is what is left of the hole, the tree, what is right of it. -/
theorem toList_plug (t : CTree α) (ctx : Ctx α) :
    (plug t ctx).toList = before ctx ++ t.toList ++ after ctx := by
  induction ctx generalizing t with
  | nil => simp [before, after]
  | cons f up ih =>
    rw [plug_cons, ih]
    obtain ⟨d, c, a, s⟩ := f
    cases d <;> simp [before, after, build]

theorem perm_labels (ctx : Ctx α) : (before ctx ++ after ctx).Perm (labels ctx) := by
  induction ctx with
  | nil => exact List.Perm.refl _
  | cons f up ih =>
    obtain ⟨d, c, a, s⟩ := f
    have h1 : (before up ++ (a :: s.toList ++ after up)).Perm
        (a :: s.toList ++ (before up ++ after up)) := by
      rw [← List.append_assoc, ← List.append_assoc]
      exact List.Perm.append_right _ List.perm_append_comm
    have h2 : (a :: s.toList ++ (before up ++ after up)).Perm (a :: (s.toList ++ labels up)) := by
      rw [List.cons_append]
      exact ((List.perm_append_left_iff _).mpr ih).cons a
    cases d
    · exact h1.trans h2
    · have h0 : (before up ++ (s.toList ++ [a]) ++ after up).Perm
          (before up ++ (a :: s.toList ++ after up)) := by
        rw [List.append_assoc]
        refine List.Perm.append_left _ (List.Perm.append_right _ ?_)
        exact List.perm_append_singleton a s.toList
      exact h0.trans (h1.trans h2)

/-- The labels of the plugged tree, without their order. -/
theorem perm_plug (t : CTree α) (ctx : Ctx α) :
    (plug t ctx).toList.Perm (t.toList ++ labels ctx) := by
  rw [toList_plug]
  have h : (before ctx ++ t.toList ++ after ctx).Perm (t.toList ++ (before ctx ++ after ctx)) := by
    rw [← List.append_assoc]
    exact List.Perm.append_right _ List.perm_append_comm
  exact h.trans (List.Perm.append_left _ (perm_labels ctx))

theorem mem_plug {t : CTree α} {ctx : Ctx α} {x : α} :
    x ∈ (plug t ctx).toList ↔ x ∈ t.toList ∨ x ∈ labels ctx := by
  rw [(perm_plug t ctx).mem_iff, List.mem_append]

theorem nodup_plug {t : CTree α} {ctx : Ctx α} :
    (plug t ctx).toList.Nodup ↔ (t.toList ++ labels ctx).Nodup :=
  (perm_plug t ctx).nodup_iff

/-- Every label of a tree is the root of some focus. -/
theorem exists_plug {t : CTree α} {a : α} (h : a ∈ t.toList) :
    ∃ c l r ctx, t = plug (node c l a r) ctx := by
  -- the induction runs inside an arbitrary outer context, so that a frame can be added to it
  have key : ∀ t : CTree α, a ∈ t.toList → ∀ up : Ctx α,
      ∃ c l r ctx, plug t up = plug (node c l a r) ctx := by
    intro t
    induction t with
    | leaf => intro h; cases h
    | node c l b r ihl ihr =>
      intro h up
      simp only [toList_node, List.mem_append, List.mem_cons] at h
      rcases h with h | rfl | h
      · exact ihl h (⟨.left, c, b, r⟩ :: up)
      · exact ⟨c, l, r, up, rfl⟩
      · exact ihr h (⟨.right, c, b, l⟩ :: up)
  exact key t h []

/-- The frames of a context are among its labels. -/
theorem length_le_labels (ctx : Ctx α) : ctx.length ≤ (labels ctx).length := by
  induction ctx with
  | nil => exact Nat.le_refl _
  | cons f up ih =>
    simp only [labels, List.length_cons, List.length_append]
    omega

/-- A label of a duplicate-free list splits it in one way. -/
theorem append_cons_unique {a : α} {l₁ l₂ k₁ k₂ : List α} (hnd : (l₁ ++ a :: l₂).Nodup)
    (h : l₁ ++ a :: l₂ = k₁ ++ a :: k₂) : l₁ = k₁ ∧ l₂ = k₂ := by
  induction l₁ generalizing k₁ with
  | nil =>
    cases k₁ with
    | nil => exact ⟨rfl, (List.cons.inj h).2⟩
    | cons b k₁ =>
      obtain ⟨rfl, hk⟩ := List.cons.inj h
      rw [List.nil_append, hk, List.nodup_cons] at hnd
      exact absurd (by simp) hnd.1
  | cons b l₁ ih =>
    cases k₁ with
    | nil =>
      obtain ⟨rfl, hk⟩ := List.cons.inj h
      rw [List.cons_append, List.nodup_cons] at hnd
      exact absurd (by simp) hnd.1
    | cons b' k₁ =>
      obtain ⟨rfl, hk⟩ := List.cons.inj h
      obtain ⟨rfl, rfl⟩ := ih (List.nodup_cons.mp hnd).2 hk
      exact ⟨rfl, rfl⟩

/-- Trees with the same order close a hole to trees with the same order. -/
theorem toList_plug_congr {t t' : CTree α} (h : t.toList = t'.toList) (ctx : Ctx α) :
    (plug t ctx).toList = (plug t' ctx).toList := by
  rw [toList_plug, toList_plug, h]

/-- Relabelling that fixes the labels outside the hole acts inside it. -/
theorem map_plug {f : α → α} {ctx : Ctx α} (h : ∀ x ∈ labels ctx, f x = x) (t : CTree α) :
    (plug t ctx).map f = plug (t.map f) ctx := by
  induction ctx generalizing t with
  | nil => rfl
  | cons g up ih =>
    have hup : ∀ x ∈ labels up, f x = x := fun x hx => h x (by simp [labels, hx])
    have hsib : g.sib.map f = g.sib := map_eq_self fun x hx => h x (by simp [labels, hx])
    rw [plug_cons, plug_cons, ih hup, map_build, h g.label (by simp [labels]), hsib]

/-- Nothing stands left of a hole that is reached through left children only. -/
theorem before_eq_nil {ctx : Ctx α} (h : ∀ f ∈ ctx, f.dir = .left) : before ctx = [] := by
  induction ctx with
  | nil => rfl
  | cons f up ih =>
    obtain ⟨d, c, a, s⟩ := f
    have hd : d = .left := h ⟨d, c, a, s⟩ List.mem_cons_self
    subst hd
    exact ih fun g hg => h g (List.mem_cons_of_mem _ hg)

end Ctx

/-- The colour of the node right above the hole; the outside of the root counts as black. -/
def ctxColor : Ctx α → Color
  | [] => .black
  | f :: _ => f.color

/-- `CtxBal ctx n`: closing the hole with a tree of black height `n` keeps the red-black
invariant, up to the colour of that tree's root under the hole's parent. -/
inductive CtxBal : Ctx α → ℕ → Prop where
  | nil {n : ℕ} : CtxBal [] n
  | red {d : Dir} {a : α} {s : CTree α} {up : Ctx α} {n : ℕ} (hs : Bal s n)
      (hsc : s.color = .black) (hup : ctxColor up = .black) (hne : up ≠ [])
      (h : CtxBal up n) : CtxBal (⟨d, .red, a, s⟩ :: up) n
  | black {d : Dir} {a : α} {s : CTree α} {up : Ctx α} {n : ℕ} (hs : Bal s n)
      (h : CtxBal up (n + 1)) : CtxBal (⟨d, .black, a, s⟩ :: up) n

/-- Closing a hole whose parent is not red keeps the invariant; the root of the result is
the tree's own root or an old, black one. -/
theorem CtxBal.plug {ctx : Ctx α} {n : ℕ} (h : CtxBal ctx n) {t : CTree α} (ht : Bal t n)
    (hc : t.color = .black ∨ ctxColor ctx = .black) :
    (∃ m, Bal (Ctx.plug t ctx) m)
      ∧ (Ctx.plug t ctx).color = if ctx = [] then t.color else .black := by
  induction h generalizing t with
  | nil => exact ⟨⟨_, ht⟩, rfl⟩
  | @red d a s up n hs hsc hup hne h ih =>
    have htc : t.color = .black := by
      rcases hc with h | h
      · exact h
      · cases h
    have := ih (t := build d .red t a s) (.build_red ht hs htc hsc) (.inr hup)
    simpa [hne] using this
  | @black d a s up n hs h ih =>
    have := ih (t := build d .black t a s) (.build_black ht hs) (.inl (color_build ..))
    simpa using this

/-- Every position of a red-black tree has a balanced context. -/
theorem CtxBal.of_plug {ctx : Ctx α} {t : CTree α} {m : ℕ} (h : Bal (Ctx.plug t ctx) m)
    (hroot : (Ctx.plug t ctx).color = .black) :
    ∃ n, CtxBal ctx n ∧ Bal t n ∧ (t.color = .black ∨ ctxColor ctx = .black) := by
  induction ctx generalizing t with
  | nil => exact ⟨m, .nil, h, .inr rfl⟩
  | cons f up ih =>
    obtain ⟨n, hctx, hbal, hcol⟩ := ih h hroot
    obtain ⟨d, c, a, s⟩ := f
    cases c with
    | red =>
      obtain ⟨ht, hs, htc, hsc⟩ := hbal.of_build_red
      have hup : ctxColor up = .black := by
        rcases hcol with h | h
        · rw [color_build] at h; cases h
        · exact h
      refine ⟨n, .red hs hsc hup ?_ hctx, ht, .inl htc⟩
      rintro rfl
      rw [Ctx.plug_cons, Ctx.plug_nil, color_build] at hroot
      cases hroot
    | black =>
      cases d <;> cases hbal with
      | black hl hr =>
        first
        | exact ⟨_, .black hr hctx, hl, .inr rfl⟩
        | exact ⟨_, .black hl hctx, hr, .inr rfl⟩

/-- The invariant of a context does not depend on its labels. -/
theorem CtxBal.relabel {rest up : Ctx α} {d : Dir} {c : Color} {a b : α} {s : CTree α} {n : ℕ}
    (h : CtxBal (rest ++ ⟨d, c, a, s⟩ :: up) n) : CtxBal (rest ++ ⟨d, c, b, s⟩ :: up) n := by
  induction rest generalizing n with
  | nil =>
    cases h with
    | red hs hsc hup hne h => exact .red hs hsc hup hne h
    | black hs h => exact .black hs h
  | cons f rest ih =>
    obtain ⟨d', c', a', s'⟩ := f
    cases h with
    | red hs hsc hup hne h =>
      refine .red hs hsc ?_ (by simp) (ih h)
      cases rest with
      | nil => exact hup
      | cons g rest => exact hup
    | black hs h => exact .black hs (ih h)

end ColorTree
