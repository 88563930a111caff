/-
Radix trees of a fixed fan-out, and their pre-order.

A node of level `l` has `b` entries; entry `i` covers `b^(l-1)` consecutive keys, and either ends
there or leads to a node of the level below. Entries of level 1 lead nowhere, so a node of level
`l` unfolds to a finite tree whatever the nodes are.

`preorder` lists the entries below a node, `descend` is the last entry on the way to a key, and
`nodeAt` follows a path of indices. The pre-order is strictly increasing in (key, level reversed),
which gives `preorder_nodup`; `mem_preorder_iff` says which entries it lists.
-/
import Mathlib.Data.List.Flatten
import Mathlib.Data.List.Nodup
import Mathlib.Data.List.Range
import Mathlib.Tactic.Common
import Mathlib.Tactic.Ring

set_option autoImplicit false

namespace Svmx

/-- The nodes and where their entries lead. -/
structure Radix (N : Type) (b : ℕ) where
  child : ℕ → N → ℕ → Option N
  child_one : ∀ n i, child 1 n i = none

/-- Entry `idx` of a node of level `level`; `key` is the least key it covers. -/
@[ext] structure RadixEntry (N : Type) where
  node : N
  idx : ℕ
  level : ℕ
  key : ℕ
deriving DecidableEq

namespace Radix

variable {N : Type} {b : ℕ} (T : Radix N b)

/-! ## Pre-order -/

/-- The entries below a node of level `l` whose least key is `base`. -/
def preorder : ℕ → N → ℕ → List (RadixEntry N)
  | 0, _, _ => []
  | l + 1, n, base => (List.range b).flatMap fun i =>
    ⟨n, i, l + 1, base + i * b ^ l⟩ ::
      match T.child (l + 1) n i with
      | some c => preorder l c (base + i * b ^ l)
      | none => []

/-- What is below entry `i` of a node of level `l + 1`. -/
def below (l : ℕ) (n : N) (base i : ℕ) : List (RadixEntry N) :=
  match T.child (l + 1) n i with
  | some c => T.preorder l c (base + i * b ^ l)
  | none => []

/-- The entries below a node of level `l + 1` from index `i` on. -/
def preorderFrom (l : ℕ) (n : N) (base i : ℕ) : List (RadixEntry N) :=
  (List.range' i (b - i)).flatMap fun j => ⟨n, j, l + 1, base + j * b ^ l⟩ :: T.below l n base j

theorem preorder_succ (l : ℕ) (n : N) (base : ℕ) :
    T.preorder (l + 1) n base = T.preorderFrom l n base 0 := by
  rw [preorder, preorderFrom, List.range_eq_range', Nat.sub_zero]
  rfl

theorem preorderFrom_cons (l : ℕ) (n : N) (base i : ℕ) (hi : i < b) :
    T.preorderFrom l n base i =
      ⟨n, i, l + 1, base + i * b ^ l⟩ :: (T.below l n base i ++ T.preorderFrom l n base (i + 1)) := by
  have hlen : b - i = (b - (i + 1)) + 1 := by omega
  rw [preorderFrom, hlen, List.range'_succ, List.flatMap_cons, List.cons_append]
  rfl

theorem preorderFrom_end (l : ℕ) (n : N) (base i : ℕ) (hi : b ≤ i) :
    T.preorderFrom l n base i = [] := by
  have hlen : b - i = 0 := by omega
  rw [preorderFrom, hlen, List.range'_zero, List.flatMap_nil]

/-- **Bounds.** An entry below a node lies in the keys of the node and at a level of it. -/
theorem mem_preorder_bounds (l : ℕ) (n : N) (base : ℕ) (e : RadixEntry N)
    (he : e ∈ T.preorder l n base) :
    base ≤ e.key ∧ e.key + b ^ (e.level - 1) ≤ base + b ^ l ∧ 1 ≤ e.level ∧ e.level ≤ l := by
  induction l generalizing n base with
  | zero => simp [preorder] at he
  | succ l ih =>
    rw [preorder, List.mem_flatMap] at he
    obtain ⟨i, hi, he⟩ := he
    have hib : i < b := List.mem_range.1 hi
    have hstep : i * b ^ l + b ^ l ≤ b ^ (l + 1) := by
      calc i * b ^ l + b ^ l = (i + 1) * b ^ l := by ring
        _ ≤ b * b ^ l := Nat.mul_le_mul_right _ hib
        _ = b ^ (l + 1) := by ring
    rcases List.mem_cons.1 he with rfl | he
    · simp only [Nat.add_sub_cancel]
      omega
    · rcases hc : T.child (l + 1) n i with _ | c
      · simp [hc] at he
      · simp only [hc] at he
        obtain ⟨h1, h2, h3, h4⟩ := ih c _ he
        omega

theorem mem_below_bounds (l : ℕ) (n : N) (base i : ℕ) (e : RadixEntry N)
    (he : e ∈ T.below l n base i) :
    base + i * b ^ l ≤ e.key ∧ e.key + b ^ (e.level - 1) ≤ base + (i + 1) * b ^ l ∧
      1 ≤ e.level ∧ e.level ≤ l := by
  rw [below] at he
  rcases hc : T.child (l + 1) n i with _ | c
  · simp [hc] at he
  · simp only [hc] at he
    obtain ⟨h1, h2, h3, h4⟩ := T.mem_preorder_bounds l c _ e he
    refine ⟨h1, ?_, h3, h4⟩
    rw [Nat.add_mul, Nat.one_mul]
    omega

theorem mem_preorderFrom_bounds (l : ℕ) (n : N) (base i : ℕ) (e : RadixEntry N)
    (he : e ∈ T.preorderFrom l n base i) : base + i * b ^ l ≤ e.key := by
  rw [preorderFrom, List.mem_flatMap] at he
  obtain ⟨j, hj, he⟩ := he
  have hij : i ≤ j := (List.mem_range'_1.1 hj).1
  have hmul : i * b ^ l ≤ j * b ^ l := Nat.mul_le_mul_right _ hij
  rcases List.mem_cons.1 he with rfl | he
  · exact Nat.add_le_add_left hmul _
  · have := (T.mem_below_bounds l n base j e he).1
    omega

/-! ## Each entry once -/

/-- The order of the walk: smaller keys first, of two entries at one key the higher level. -/
def Before (e f : RadixEntry N) : Prop := e.key < f.key ∨ (e.key = f.key ∧ f.level < e.level)

theorem preorder_pairwise (hb : 0 < b) (l : ℕ) (n : N) (base : ℕ) :
    (T.preorder l n base).Pairwise Before := by
  induction l generalizing n base with
  | zero => simp [preorder]
  | succ l ih =>
    have hpos : 0 < b ^ l := Nat.pow_pos hb
    -- one entry and what is below it is sorted
    have hone : ∀ i, (⟨n, i, l + 1, base + i * b ^ l⟩ :: T.below l n base i).Pairwise Before := by
      intro i
      refine List.pairwise_cons.2 ⟨?_, ?_⟩
      · intro e he
        obtain ⟨h1, -, -, h4⟩ := T.mem_below_bounds l n base i e he
        by_cases hk : base + i * b ^ l = e.key
        · exact Or.inr ⟨hk, Nat.lt_succ_of_le h4⟩
        · exact Or.inl (by change base + i * b ^ l < e.key; omega)
      · rw [below]
        rcases T.child (l + 1) n i with _ | c
        · exact List.Pairwise.nil
        · exact ih c _
    -- and lies before everything at a larger index
    have hfrom : ∀ k i, i + k = b → (T.preorderFrom l n base i).Pairwise Before := by
      intro k
      induction k with
      | zero =>
        intro i hi
        rw [T.preorderFrom_end l n base i (by omega)]
        exact List.Pairwise.nil
      | succ k ihk =>
        intro i hi
        rw [T.preorderFrom_cons l n base i (by omega), ← List.cons_append, List.pairwise_append]
        refine ⟨hone i, ihk (i + 1) (by omega), ?_⟩
        intro e he f hf
        have hf1 := T.mem_preorderFrom_bounds l n base (i + 1) f hf
        have hsucc : (i + 1) * b ^ l = i * b ^ l + b ^ l := by ring
        refine Or.inl ?_
        rcases List.mem_cons.1 he with rfl | he
        · change base + i * b ^ l < f.key
          omega
        · obtain ⟨-, h2, -, -⟩ := T.mem_below_bounds l n base i e he
          have : 0 < b ^ (e.level - 1) := Nat.pow_pos hb
          omega
    rw [preorder_succ]
    exact hfrom b 0 (by omega)

theorem preorder_nodup (hb : 0 < b) (l : ℕ) (n : N) (base : ℕ) : (T.preorder l n base).Nodup := by
  refine (T.preorder_pairwise hb l n base).imp ?_
  rintro e f (h | ⟨-, h⟩) rfl
  · exact Nat.lt_irrefl _ h
  · exact Nat.lt_irrefl _ h

/-! ## Paths -/

/-- The node that a path of indices leads to from a node of level `l`. -/
def nodeAt : ℕ → N → List ℕ → Option N
  | _, n, [] => some n
  | l, n, i :: p => if i < b then (T.child l n i).bind fun c => nodeAt (l - 1) c p else none

/-- The least key below a path. -/
def keyAt (b : ℕ) : ℕ → List ℕ → ℕ
  | _, [] => 0
  | l, i :: p => i * b ^ (l - 1) + keyAt b (l - 1) p

theorem nodeAt_append (l : ℕ) (n : N) (p q : List ℕ) :
    T.nodeAt l n (p ++ q) = (T.nodeAt l n p).bind fun c => T.nodeAt (l - p.length) c q := by
  induction p generalizing l n with
  | nil => rfl
  | cons i p ih =>
    have hlen : l - 1 - p.length = l - (p.length + 1) := by omega
    simp only [List.cons_append, nodeAt, List.length_cons]
    by_cases hi : i < b
    · rcases T.child l n i with _ | c
      · simp [hi]
      · simp only [hi, if_true, Option.bind_some]
        rw [ih, hlen]
    · simp [hi]

/-- **Membership.** The entries below a node are the entries of the nodes that its paths lead to,
each at the level and with the key of its path. -/
theorem mem_preorder_iff (l : ℕ) (n : N) (base : ℕ) (e : RadixEntry N) :
    e ∈ T.preorder l n base ↔ ∃ p : List ℕ, p.length < l ∧ T.nodeAt l n p = some e.node ∧
      e.idx < b ∧ e.level = l - p.length ∧ e.key = base + keyAt b l (p ++ [e.idx]) := by
  induction l generalizing n base with
  | zero => simp [preorder]
  | succ l ih =>
    rw [preorder, List.mem_flatMap]
    constructor
    · rintro ⟨i, hi, he⟩
      have hib : i < b := List.mem_range.1 hi
      rcases List.mem_cons.1 he with rfl | he
      · exact ⟨[], by simp, rfl, hib, rfl, by simp [keyAt]⟩
      · rcases hc : T.child (l + 1) n i with _ | c
        · simp [hc] at he
        · simp only [hc] at he
          obtain ⟨p, h1, h2, h3, h4, h5⟩ := (ih c _).1 he
          refine ⟨i :: p, by simpa using h1, by simp [nodeAt, hib, hc, h2], h3, by simp [h4], ?_⟩
          simp only [List.cons_append, keyAt, Nat.add_sub_cancel]
          omega
    · rintro ⟨p, h1, h2, h3, h4, h5⟩
      rcases p with _ | ⟨i, p⟩
      · refine ⟨e.idx, List.mem_range.2 h3, List.mem_cons.2 (Or.inl ?_)⟩
        simp only [nodeAt, Option.some.injEq] at h2
        simp only [List.nil_append, keyAt, Nat.add_sub_cancel, Nat.add_zero] at h5
        ext <;> simp_all
      · simp only [nodeAt] at h2
        by_cases hib : i < b
        · rcases hc : T.child (l + 1) n i with _ | c
          · simp [hib, hc] at h2
          · simp only [hib, if_true, hc, Option.bind_some, Nat.add_sub_cancel] at h2
            refine ⟨i, List.mem_range.2 hib, List.mem_cons.2 (Or.inr ?_)⟩
            simp only [hc]
            refine (ih c _).2 ⟨p, by simpa using h1, h2, h3, by simpa using h4, ?_⟩
            simp only [List.cons_append, keyAt, Nat.add_sub_cancel] at h5
            omega
        · simp [hib] at h2

/-! ## The way to a key -/

/-- The last entry on the way from a node of level `l` to a key. -/
def descend : ℕ → N → ℕ → RadixEntry N
  | 0, n, key => ⟨n, 0, 0, key⟩
  | l + 1, n, key =>
    match T.child (l + 1) n (key / b ^ l % b) with
    | some c => descend l c key
    | none => ⟨n, key / b ^ l % b, l + 1, key / b ^ l * b ^ l⟩

theorem descend_level_le (l : ℕ) (n : N) (key : ℕ) : (T.descend l n key).level ≤ l := by
  induction l generalizing n with
  | zero => exact Nat.le_refl 0
  | succ l ih =>
    rw [descend]
    rcases T.child (l + 1) n (key / b ^ l % b) with _ | c
    · exact Nat.le_refl _
    · exact Nat.le_succ_of_le (ih c)

/-- The first index of a path and the index at its end. -/
def firstIdx (p : List ℕ) (i : ℕ) : ℕ := p.headD i

/-- The last entry on the way to a key is at the end of a path that starts with the key's index. -/
theorem descend_path (hb : 0 < b) (l : ℕ) (n : N) (key : ℕ) :
    ∃ p, T.nodeAt (l + 1) n p = some (T.descend (l + 1) n key).node ∧
      firstIdx p (T.descend (l + 1) n key).idx = key / b ^ l % b := by
  induction l generalizing n with
  | zero =>
    refine ⟨[], ?_⟩
    simp [descend, T.child_one, nodeAt, firstIdx]
  | succ l ih =>
    rw [descend]
    rcases hc : T.child (l + 1 + 1) n (key / b ^ (l + 1) % b) with _ | c
    · exact ⟨[], rfl, rfl⟩
    · obtain ⟨p, hp, -⟩ := ih c
      refine ⟨key / b ^ (l + 1) % b :: p, ?_, rfl⟩
      simp only [nodeAt, Nat.mod_lt _ hb, if_true, hc, Option.bind_some, Nat.add_sub_cancel]
      exact hp

end Radix

end Svmx
