/-
`rbtree.h`, `rbtree_augmented.h` and `rbtree.c`: the pointer-level red-black tree.

The model keeps the representation of the source. A node is a cell with one word for
parent and colour (`__rb_parent_color`, colour in bit 0, parent in the bits above bit 1)
and two child pointers; NULL is the pointer `0`; a read or write through a pointer at
which there is no cell is the outcome `none`, so a proof that a function returns `some`
is in particular a proof that it follows no null pointer. Loops take fuel, and running out
of fuel is `none` too.

The source writes each rebalancing branch twice, once per side. Here each branch is one
definition at a direction `d`; the comment at each use says which block of the source it is.
`augment_rotate`, `propagate` and `copy` are the dummy callbacks of `rbtree.c` and are
left out.
-/
import Mathlib.Logic.Function.Basic
import Svmx.ColorTree

set_option autoImplicit false

namespace Svmx.RbTree

open ColorTree

/-! ## Cells -/

/-- An address. `0` is NULL. -/
abbrev Ptr := ℕ

/-- `struct rb_node`. -/
structure RbNode where
  rb_parent_color : ℕ
  rb_right : Ptr
  rb_left : Ptr
deriving DecidableEq, Repr

def RB_RED : ℕ := 0
def RB_BLACK : ℕ := 1

/-- `__rb_parent(pc)`, the word with its two low bits cleared (`pc & ~3`). -/
def rb_parent_of (pc : ℕ) : ℕ := pc / 4 * 4

/-- `__rb_color(pc)`, bit 0 of the word. -/
def rb_color_of (pc : ℕ) : ℕ := pc % 2

def RbNode.rb_parent (n : RbNode) : Ptr := rb_parent_of n.rb_parent_color
def RbNode.rb_is_black (n : RbNode) : Bool := rb_color_of n.rb_parent_color == RB_BLACK
def RbNode.rb_is_red (n : RbNode) : Bool := !n.rb_is_black

/-- `rb_red_parent`: the word itself, since the colour bit of a red node is `0`. -/
def RbNode.rb_red_parent (n : RbNode) : Ptr := n.rb_parent_color

/-- `rb_left` or `rb_right`. -/
def RbNode.child (n : RbNode) : Dir → Ptr
  | .left => n.rb_left
  | .right => n.rb_right

def RbNode.setChild (n : RbNode) (c : Ptr) : Dir → RbNode
  | .left => { n with rb_left := c }
  | .right => { n with rb_right := c }

/-- The cells of one tree and its `struct rb_root`. -/
structure RbState where
  node : Ptr → Option RbNode
  rb_node : Ptr

namespace RbState

/-- Overwrite a cell. -/
def store (s : RbState) (p : Ptr) (n : RbNode) : RbState :=
  { s with node := Function.update s.node p (some n) }

/-- `p->rb_left = c` or `p->rb_right = c`. -/
def set_child (s : RbState) (d : Dir) (p c : Ptr) : Option RbState := do
  let n ← s.node p
  pure (s.store p (n.setChild c d))

end RbState

/-! ## `rbtree.h` and the helpers of `rbtree_augmented.h` -/

def rb_set_parent (s : RbState) (rb p : Ptr) : Option RbState := do
  let n ← s.node rb
  pure (s.store rb { n with rb_parent_color := rb_color_of n.rb_parent_color + p })

def rb_set_parent_color (s : RbState) (rb p : Ptr) (color : ℕ) : Option RbState := do
  let n ← s.node rb
  pure (s.store rb { n with rb_parent_color := p + color })

def rb_set_black (s : RbState) (rb : Ptr) : Option RbState := do
  let n ← s.node rb
  pure (s.store rb { n with rb_parent_color := n.rb_parent_color + RB_BLACK })

/-- `__rb_change_child`. -/
def rb_change_child (s : RbState) (old new parent : Ptr) : Option RbState :=
  if parent ≠ 0 then do
    let np ← s.node parent
    if np.rb_left = old then s.set_child .left parent new
    else s.set_child .right parent new
  else some { s with rb_node := new }

/-- Where `*rb_link` lives: the root pointer or a child pointer of a node. -/
inductive RbLink where
  | root
  | child (d : Dir) (p : Ptr)
deriving DecidableEq, Repr

def RbState.read_link (s : RbState) : RbLink → Option Ptr
  | .root => some s.rb_node
  | .child d p => (s.node p).map (·.child d)

def RbState.write_link (s : RbState) (c : Ptr) : RbLink → Option RbState
  | .root => some { s with rb_node := c }
  | .child d p => s.set_child d p c

def rb_link_node (s : RbState) (node parent : Ptr) (rb_link : RbLink) : Option RbState := do
  let _ ← s.node node
  let s := s.store node ⟨parent, 0, 0⟩
  s.write_link node rb_link

/-- `__rb_rotate_set_parents`: `new` takes `old`'s parent and colour, `old` goes under `new`
with colour `color`. -/
def rb_rotate_set_parents (s : RbState) (old new : Ptr) (color : ℕ) : Option RbState := do
  let no ← s.node old
  let parent := no.rb_parent
  let nn ← s.node new
  let s := s.store new { nn with rb_parent_color := no.rb_parent_color }
  let s ← rb_set_parent_color s old new color
  rb_change_child s old new parent

/-- `if (tmp) rb_set_parent_color(tmp, p, RB_BLACK)`, the recurring tail of a rotation. -/
def rb_set_parent_black_if (s : RbState) (tmp p : Ptr) : Option RbState :=
  if tmp ≠ 0 then rb_set_parent_color s tmp p RB_BLACK else some s

/-- `if (tmp) rb_set_parent(tmp, p)`. -/
def rb_set_parent_if (s : RbState) (tmp p : Ptr) : Option RbState :=
  if tmp ≠ 0 then rb_set_parent s tmp p else some s

/-- `tmp && rb_is_red(tmp)`. -/
def rb_is_red_if (s : RbState) (tmp : Ptr) : Option Bool :=
  if tmp ≠ 0 then (s.node tmp).map (·.rb_is_red) else some false

/-! ## Insertion: `__rb_insert` -/

/-- Case 2 of `__rb_insert` (rotate at parent) for a parent that is the `d`-child of its own
parent. The result carries the new values of `parent` and `tmp`. -/
def rb_insert_case2 (d : Dir) (s : RbState) (node parent : Ptr) :
    Option (RbState × Ptr × Ptr) := do
  let nn ← s.node node
  let tmp := nn.child d
  let s ← s.set_child d.flip parent tmp
  let s ← s.set_child d node parent
  let s ← rb_set_parent_black_if s tmp parent
  let s ← rb_set_parent_color s parent node RB_RED
  let nn ← s.node node
  pure (s, node, nn.child d.flip)

/-- Case 3 of `__rb_insert` (rotate at gparent) for a parent that is the `d`-child of
`gparent`. -/
def rb_insert_case3 (d : Dir) (s : RbState) (parent gparent tmp : Ptr) : Option RbState := do
  let s ← s.set_child d gparent tmp
  let s ← s.set_child d.flip parent gparent
  let s ← rb_set_parent_black_if s tmp gparent
  rb_rotate_set_parents s gparent parent RB_RED

/-- What `__rb_insert` does below a black uncle, for a parent that is the `d`-child of
`gparent`. -/
def rb_insert_rotate (d : Dir) (s : RbState) (node parent gparent : Ptr) :
    Option RbState := do
  let np ← s.node parent
  let tmp := np.child d.flip
  if node = tmp then do
    let (s, parent, tmp) ← rb_insert_case2 d s node parent
    rb_insert_case3 d s parent gparent tmp
  else rb_insert_case3 d s parent gparent tmp

/-- The loop of `__rb_insert`. -/
def rb_insert : ℕ → RbState → Ptr → Ptr → Option RbState
  | 0, _, _, _ => none
  | fuel + 1, s, node, parent =>
    if parent = 0 then rb_set_parent_color s node 0 RB_BLACK
    else do
      let np ← s.node parent
      if np.rb_is_black then pure s
      else do
        let gparent := np.rb_red_parent
        let ng ← s.node gparent
        -- the first block of the source is `d = left`, its `else` block `d = right`
        let d : Dir := if parent ≠ ng.rb_right then .left else .right
        let tmp := ng.child d.flip
        if ← rb_is_red_if s tmp then do
          -- Case 1 - color flips
          let s ← rb_set_parent_color s tmp gparent RB_BLACK
          let s ← rb_set_parent_color s parent gparent RB_BLACK
          let ng ← s.node gparent
          let parent := ng.rb_parent
          let s ← rb_set_parent_color s gparent parent RB_RED
          rb_insert fuel s gparent parent
        else rb_insert_rotate d s node parent gparent

def rb_insert_color (fuel : ℕ) (s : RbState) (node : Ptr) : Option RbState := do
  let nn ← s.node node
  rb_insert fuel s node nn.rb_red_parent

def rb_replace_node (s : RbState) (victim new : Ptr) : Option RbState := do
  let nv ← s.node victim
  let parent := nv.rb_parent
  let _ ← s.node new
  let s := s.store new nv
  let nv ← s.node victim
  let s ← rb_set_parent_if s nv.rb_left new
  let nv ← s.node victim
  let s ← rb_set_parent_if s nv.rb_right new
  rb_change_child s victim new parent

/-! ## Removal: `__rb_erase_augmented`, `____rb_erase_color`, `rb_erase` -/

/-- The `do … while (tmp)` of case 3: the leftmost node below `tmp` and its parent. -/
def rb_erase_successor (s : RbState) : ℕ → Ptr → Ptr → Option (Ptr × Ptr)
  | 0, _, _ => none
  | fuel + 1, successor, tmp => do
    let nt ← s.node tmp
    if nt.rb_left = 0 then pure (successor, tmp)
    else rb_erase_successor s fuel tmp nt.rb_left

/-- `__rb_erase_augmented`; the second component is the node to rebalance at. -/
def rb_erase_augmented (fuel : ℕ) (s : RbState) (node : Ptr) : Option (RbState × Ptr) := do
  let n ← s.node node
  let child := n.rb_right
  let tmp := n.rb_left
  if tmp = 0 then do
    -- Case 1: node to erase has no more than 1 child
    let pc := n.rb_parent_color
    let parent := rb_parent_of pc
    let s ← rb_change_child s node child parent
    if child ≠ 0 then do
      let nc ← s.node child
      pure (s.store child { nc with rb_parent_color := pc }, 0)
    else pure (s, if rb_color_of pc = RB_BLACK then parent else 0)
  else if child = 0 then do
    -- Still case 1, but this time the child is node->rb_left
    let pc := n.rb_parent_color
    let nt ← s.node tmp
    let s := s.store tmp { nt with rb_parent_color := pc }
    let s ← rb_change_child s node tmp (rb_parent_of pc)
    pure (s, 0)
  else do
    let nch ← s.node child
    let (s, successor, parent, child2) ←
      if nch.rb_left = 0 then
        -- Case 2: node's successor is its right child
        pure (s, child, child, nch.rb_right)
      else do
        -- Case 3: node's successor is leftmost under node's right child subtree
        let (parent, successor) ← rb_erase_successor s fuel child nch.rb_left
        let ns ← s.node successor
        let child2 := ns.rb_right
        let s ← s.set_child .left parent child2
        let s ← s.set_child .right successor child
        let s ← rb_set_parent s child successor
        pure (s, successor, parent, child2)
    let n ← s.node node
    let tmp := n.rb_left
    let s ← s.set_child .left successor tmp
    let s ← rb_set_parent s tmp successor
    let n ← s.node node
    let pc := n.rb_parent_color
    let s ← rb_change_child s node successor (rb_parent_of pc)
    let (s, rebalance) ←
      if child2 ≠ 0 then do
        let s ← rb_set_parent_color s child2 parent RB_BLACK
        pure (s, 0)
      else do
        let ns ← s.node successor
        pure (s, if ns.rb_is_black then parent else 0)
    let ns ← s.node successor
    pure (s.store successor { ns with rb_parent_color := pc }, rebalance)

/-- `!tmp || rb_is_black(tmp)`. -/
def rb_is_black_or_null (s : RbState) (tmp : Ptr) : Option Bool :=
  if tmp = 0 then some true else (s.node tmp).map (·.rb_is_black)

/-- Cases 3 and 4 of `____rb_erase_color` for a node that is the `d`-child of `parent`:
`tmp1` is the sibling's outer child, and `inner` says whether case 3 runs first. -/
def rb_erase_color_rotate (d : Dir) (s : RbState) (parent sibling tmp1 : Ptr) (inner : Bool) :
    Option RbState := do
  let (s, sibling, tmp1) ←
    if inner then do
      -- Case 3 - rotate at sibling
      let ns ← s.node sibling
      let tmp2 := ns.child d
      let nt ← s.node tmp2
      let tmp1 := nt.child d.flip
      let s ← s.set_child d sibling tmp1
      let s ← s.set_child d.flip tmp2 sibling
      let s ← s.set_child d.flip parent tmp2
      let s ← rb_set_parent_black_if s tmp1 sibling
      pure (s, tmp2, sibling)
    else pure (s, sibling, tmp1)
  -- Case 4 - rotate at parent + color flips
  let ns ← s.node sibling
  let tmp2 := ns.child d
  let s ← s.set_child d.flip parent tmp2
  let s ← s.set_child d sibling parent
  let s ← rb_set_parent_color s tmp1 sibling RB_BLACK
  let s ← rb_set_parent_if s tmp2 parent
  rb_rotate_set_parents s parent sibling RB_BLACK

/-- The loop of `____rb_erase_color`. -/
def rb_erase_color : ℕ → RbState → Ptr → Ptr → Option RbState
  | 0, _, _, _ => none
  | fuel + 1, s, node, parent => do
    let np ← s.node parent
    -- the first block of the source is `d = left`, its `else` block `d = right`
    let d : Dir := if node ≠ np.rb_right then .left else .right
    let sibling := np.child d.flip
    let ns ← s.node sibling
    let (s, sibling) ←
      if ns.rb_is_red then do
        -- Case 1 - rotate at parent
        let tmp1 := ns.child d
        let s ← s.set_child d.flip parent tmp1
        let s ← s.set_child d sibling parent
        let s ← rb_set_parent_color s tmp1 parent RB_BLACK
        let s ← rb_rotate_set_parents s parent sibling RB_RED
        pure (s, tmp1)
      else pure (s, sibling)
    let ns ← s.node sibling
    let tmp1 := ns.child d.flip
    if ← rb_is_black_or_null s tmp1 then do
      let tmp2 := ns.child d
      if ← rb_is_black_or_null s tmp2 then do
        -- Case 2 - sibling color flip
        let s ← rb_set_parent_color s sibling parent RB_RED
        let np ← s.node parent
        if np.rb_is_red then rb_set_black s parent
        else if np.rb_parent ≠ 0 then rb_erase_color fuel s parent np.rb_parent
        else pure s
      else rb_erase_color_rotate d s parent sibling tmp1 true
    else rb_erase_color_rotate d s parent sibling tmp1 false

def rb_erase (fuel : ℕ) (s : RbState) (node : Ptr) : Option RbState := do
  let (s, rebalance) ← rb_erase_augmented fuel s node
  if rebalance ≠ 0 then rb_erase_color fuel s 0 rebalance else pure s

/-! ## Neighbours: `rb_next`, `rb_prev`, `rb_last` -/

/-- `while (n->child) n = n->child;` on side `d`. -/
def rb_descend (s : RbState) (d : Dir) : ℕ → Ptr → Option Ptr
  | 0, _ => none
  | fuel + 1, n => do
    let nn ← s.node n
    if nn.child d ≠ 0 then rb_descend s d fuel (nn.child d) else pure n

/-- `while ((parent = rb_parent(node)) && node == parent->child) node = parent;` on side
`d`; the result is `parent`. -/
def rb_climb (s : RbState) (d : Dir) : ℕ → Ptr → Option Ptr
  | 0, _ => none
  | fuel + 1, node => do
    let n ← s.node node
    let parent := n.rb_parent
    if parent = 0 then pure 0
    else do
      let np ← s.node parent
      if node = np.child d then rb_climb s d fuel parent else pure parent

/-- `rb_next` is this function at `right`, `rb_prev` at `left`. -/
def rb_step (d : Dir) (fuel : ℕ) (s : RbState) (node : Ptr) : Option Ptr := do
  let n ← s.node node
  if n.rb_parent_color = node then pure 0  -- RB_EMPTY_NODE
  else if n.child d ≠ 0 then rb_descend s d.flip fuel (n.child d)
  else rb_climb s d fuel node

def rb_next : ℕ → RbState → Ptr → Option Ptr := rb_step .right
def rb_prev : ℕ → RbState → Ptr → Option Ptr := rb_step .left

def rb_last (fuel : ℕ) (s : RbState) : Option Ptr :=
  if s.rb_node = 0 then some 0 else rb_descend s .right fuel s.rb_node

end Svmx.RbTree
