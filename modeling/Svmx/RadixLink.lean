/-
Radix trees that grow by a node.

`Linked` says that one tree is another with a new node without children at an entry that led
nowhere. The paths of the new tree are the old ones and the one to the new node
(`Linked.nodeAt_iff`), so a tree stays a tree (`Linked.distinct`). The way to a key is the old one
unless it ended at that entry (`descend_replace`), and all keys of an entry's range have the way that
ends there (`descend_block`).
-/
import Svmx.RadixTotal

set_option autoImplicit false

namespace Svmx.Radix

variable {N A : Type} {b : ℕ} {T T' : Radix N b} {w w' : ℕ → N → ℕ → A}

/-! ## Paths -/

theorem nodeAt_snoc (T : Radix N b) (l : ℕ) (n : N) (p : List ℕ) (j : ℕ) :
    T.nodeAt l n (p ++ [j]) =
      (T.nodeAt l n p).bind fun c => if j < b then T.child (l - p.length) c j else none := by
  rw [nodeAt_append]
  refine Option.bind_congr fun c _ => ?_
  unfold nodeAt
  cases T.child (l - p.length) c j with
  | none => rfl
  | some d => rfl

/-- A node at the end of a path has a parent. -/
theorem nodeAt_snoc_some {l j : ℕ} {n x : N} {p : List ℕ}
    (h : T.nodeAt l n (p ++ [j]) = some x) :
    ∃ c, T.nodeAt l n p = some c ∧ j < b ∧ T.child (l - p.length) c j = some x := by
  rw [nodeAt_snoc] at h
  obtain ⟨c, hc, h⟩ := Option.bind_eq_some_iff.mp h
  by_cases hj : j < b
  · rw [if_pos hj] at h
    exact ⟨c, hc, hj, h⟩
  · rw [if_neg hj] at h
    cases h

theorem nodeAt_snoc_of_child {l j : ℕ} {n c x : N} {p : List ℕ} (hp : T.nodeAt l n p = some c)
    (hj : j < b) (hc : T.child (l - p.length) c j = some x) :
    T.nodeAt l n (p ++ [j]) = some x := by
  rw [nodeAt_snoc, hp, Option.bind_some, if_pos hj, hc]

/-- `T'` is `T` with the node `t`, which has no children, at entry `i` of the node `u` at the end of
the path `q`. -/
structure Linked (T T' : Radix N b) (l : ℕ) (n : N) (q : List ℕ) (u : N) (i : ℕ) (t : N) : Prop where
  node : T.nodeAt l n q = some u
  idx : i < b
  free : T.child (l - q.length) u i = none
  child : T'.child (l - q.length) u i = some t
  empty : ∀ level j, T'.child level t j = none
  same : ∀ p v j, T.nodeAt l n p = some v → j < b → (p = q → j ≠ i) →
    T'.child (l - p.length) v j = T.child (l - p.length) v j

section Linked

variable {l i : ℕ} {n u t : N} {q : List ℕ}

/-- **The paths of the grown tree** are the old ones and the one to the new node. -/
theorem Linked.nodeAt_iff (h : Linked T T' l n q u i t) (p : List ℕ) (x : N) :
    T'.nodeAt l n p = some x ↔ T.nodeAt l n p = some x ∨ (p = q ++ [i] ∧ x = t) := by
  induction p using List.reverseRecOn generalizing x with
  | nil =>
    have hne : ([] : List ℕ) ≠ q ++ [i] := by simp
    constructor
    · exact Or.inl
    · rintro (h | ⟨h, -⟩)
      · exact h
      · exact absurd h hne
  | append_singleton p j ih =>
    constructor
    · intro hx
      obtain ⟨c, hc, hj, hchild⟩ := nodeAt_snoc_some hx
      rcases (ih c).mp hc with hc | ⟨-, rfl⟩
      · by_cases hpq : p = q ∧ j = i
        · obtain ⟨rfl, rfl⟩ := hpq
          rw [h.node] at hc
          obtain rfl := Option.some.inj hc
          rw [h.child] at hchild
          exact Or.inr ⟨rfl, (Option.some.inj hchild).symm⟩
        · have hsame := h.same p c j hc hj fun hp hji => hpq ⟨hp, hji⟩
          rw [hsame] at hchild
          exact Or.inl (nodeAt_snoc_of_child hc hj hchild)
      · rw [h.empty] at hchild
        cases hchild
    · rintro (hx | ⟨hp, rfl⟩)
      · obtain ⟨c, hc, hj, hchild⟩ := nodeAt_snoc_some hx
        have hnot : p = q → j ≠ i := by
          rintro rfl rfl
          rw [h.node] at hc
          obtain rfl := Option.some.inj hc
          rw [h.free] at hchild
          cases hchild
        refine nodeAt_snoc_of_child ((ih c).mpr (Or.inl hc)) hj ?_
        rw [h.same p c j hc hj hnot, hchild]
      · obtain ⟨rfl, hji⟩ := List.append_inj' hp rfl
        obtain rfl : j = i := (List.cons.inj hji).1
        exact nodeAt_snoc_of_child ((ih u).mpr (Or.inl h.node)) h.idx h.child

/-- No two paths of the grown tree lead to one node, if the new node is new. -/
theorem Linked.distinct (h : Linked T T' l n q u i t) (hnew : ∀ p, T.nodeAt l n p ≠ some t)
    (hdistinct : ∀ p r x, T.nodeAt l n p = some x → T.nodeAt l n r = some x → p = r)
    (p r : List ℕ) (x : N) (hp : T'.nodeAt l n p = some x) (hr : T'.nodeAt l n r = some x) :
    p = r := by
  rcases (h.nodeAt_iff p x).mp hp with hp | ⟨rfl, rfl⟩
  · rcases (h.nodeAt_iff r x).mp hr with hr | ⟨rfl, rfl⟩
    · exact hdistinct p r x hp hr
    · exact absurd hp (hnew p)
  · rcases (h.nodeAt_iff r x).mp hr with hr | ⟨rfl, -⟩
    · exact absurd hr (hnew r)
    · rfl

end Linked

/-! ## The way to a key -/

/-- Trees that agree below a node have the same ways below it, to entries of the same weight. -/
theorem descend_congr (hb : 0 < b) {l : ℕ} {n : N} (h : SameBelow T T' w w' l n) (key : ℕ) :
    T'.descend l n key = T.descend l n key ∧
      w' (T.descend l n key).level (T.descend l n key).node (T.descend l n key).idx =
        w (T.descend l n key).level (T.descend l n key).node (T.descend l n key).idx := by
  induction l generalizing n with
  | zero => exact ⟨rfl, h.weight hb⟩
  | succ l ih =>
    have hj : key / b ^ l % b < b := Nat.mod_lt _ hb
    have hsame := h.child hj
    cases hc : T.child (l + 1) n (key / b ^ l % b) with
    | none =>
      simp only [descend, hsame, hc, true_and]
      exact h.weight hj
    | some c =>
      simp only [descend, hsame, hc]
      exact ih (h.down hj hc)

/-- **The way to a key when one entry is replaced** that led nowhere: it ended there, and goes on as
the new tree does, or it is the old one. -/
theorem descend_replace (hb : 0 < b) {l i : ℕ} {n u : N} {p : List ℕ}
    (hp : T.nodeAt l n p = some u) (hlen : p.length < l)
    (hfree : T.child (l - p.length) u i = none) (h : SameBut T T' w w' l n p i) (key : ℕ) :
    ((T.descend l n key).node = u ∧ (T.descend l n key).idx = i ∧
        (T.descend l n key).level = l - p.length ∧ key / b ^ (l - p.length - 1) % b = i ∧
        T'.descend l n key = T'.descend (l - p.length) u key) ∨
      (T'.descend l n key = T.descend l n key ∧
        w' (T.descend l n key).level (T.descend l n key).node (T.descend l n key).idx =
          w (T.descend l n key).level (T.descend l n key).node (T.descend l n key).idx) := by
  induction p generalizing l n with
  | nil =>
    obtain rfl : n = u := Option.some.inj hp
    obtain ⟨l, rfl⟩ : ∃ k, l = k + 1 := ⟨l - 1, by simp at hlen; omega⟩
    rw [List.length_nil, Nat.sub_zero] at hfree ⊢
    have hj : key / b ^ l % b < b := Nat.mod_lt _ hb
    -- the key takes the entry that is replaced, or another one of the same table
    by_cases hji : key / b ^ l % b = i
    · left
      simp only [descend, hji, hfree, Nat.add_sub_cancel, and_self]
    · right
      have hhere := h [] n rfl (by simp) _ hj (fun _ => hji)
      rw [List.length_nil, Nat.sub_zero] at hhere
      cases hc : T.child (l + 1) n (key / b ^ l % b) with
      | none =>
        simp only [descend, hhere.1, hc, true_and]
        exact hhere.2
      | some c =>
        simp only [descend, hhere.1, hc]
        exact descend_congr hb (h.side rfl hj hji hc) key
  | cons k p ih =>
    obtain ⟨c, hk, hc, hp⟩ := nodeAt_cons_some hp
    obtain ⟨l, rfl⟩ : ∃ l', l = l' + 1 := ⟨l - 1, by simp at hlen; omega⟩
    have hlevel : l + 1 - (k :: p).length = l - p.length := by
      rw [List.length_cons]
      omega
    rw [Nat.add_sub_cancel] at hp
    rw [hlevel] at hfree ⊢
    have hj : key / b ^ l % b < b := Nat.mod_lt _ hb
    have hhere := h [] n rfl (by simp) _ hj (fun heq => by cases heq)
    rw [List.length_nil, Nat.sub_zero] at hhere
    -- the key follows the path to the table, or leaves it here
    by_cases hjk : key / b ^ l % b = k
    · rw [hjk] at hhere
      have hrec := ih hp (by simpa using hlen) hfree (h.down hk hc)
      simpa only [descend, hjk, hhere.1, hc] using hrec
    · right
      cases hcj : T.child (l + 1) n (key / b ^ l % b) with
      | none =>
        simp only [descend, hhere.1, hcj, true_and]
        exact hhere.2
      | some d =>
        simp only [descend, hhere.1, hcj]
        exact descend_congr hb (h.side rfl hj hjk hcj) key

/-- The keys of an entry's range have one way. -/
theorem descend_block {l : ℕ} {n : N} {key key' : ℕ}
    (h : key' / b ^ ((T.descend l n key).level - 1) = key / b ^ ((T.descend l n key).level - 1))
    (hl : 1 ≤ l) : T.descend l n key' = T.descend l n key := by
  obtain ⟨l, rfl⟩ : ∃ k, l = k + 1 := ⟨l - 1, by omega⟩
  clear hl
  -- an index is read off the quotient, and higher quotients off lower ones
  have hup : ∀ k m, k ≤ m → key' / b ^ k = key / b ^ k → key' / b ^ m = key / b ^ m := by
    intro k m hk heq
    obtain ⟨d, rfl⟩ : ∃ d, m = k + d := ⟨m - k, by omega⟩
    rw [Nat.pow_add, ← Nat.div_div_eq_div_mul, ← Nat.div_div_eq_div_mul, heq]
  induction l generalizing n with
  | zero =>
    rw [descend, T.child_one] at h
    simp only [descend, T.child_one]
    simp only at h
    rw [h]
  | succ l ih =>
    have hle := T.descend_level_le (l + 1 + 1) n key
    have hindex := hup _ (l + 1) (by omega) h
    rw [descend, descend, hindex]
    cases hc : T.child (l + 1 + 1) n (key / b ^ (l + 1) % b) with
    | none => rfl
    | some c =>
      rw [descend, hc] at h
      exact ih h

end Svmx.Radix
