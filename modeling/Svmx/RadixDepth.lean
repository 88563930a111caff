/-
How far down a radix tree the way to a key comes, and what growing the tree does to that.

A key agrees with another one from level `k` up if they have the same quotient by `b^k`; the ways of
such keys run together down to level `k` (`descend_level_iff`). Linking a node at the end of the way
to a key takes exactly the keys that agree with it one level further down (`LinkedAt.level_le_iff`).
-/
import Svmx.RadixLink

set_option autoImplicit false

namespace Svmx.Radix

variable {N : Type} {b : ℕ} {T T' : Radix N b}

/-! ## Where a way ends -/

/-- The entry at the end of a way is the key's index in a table, and leads nowhere. -/
theorem descend_end (l : ℕ) (n : N) (key : ℕ) :
    (T.descend (l + 1) n key).idx = key / b ^ ((T.descend (l + 1) n key).level - 1) % b ∧
      T.child (T.descend (l + 1) n key).level (T.descend (l + 1) n key).node
        (T.descend (l + 1) n key).idx = none := by
  induction l generalizing n with
  | zero =>
    simp only [descend, T.child_one, Nat.pow_zero, Nat.div_one, Nat.zero_add, Nat.sub_self, and_self]
  | succ l ih =>
    rw [descend]
    cases hc : T.child (l + 1 + 1) n (key / b ^ (l + 1) % b) with
    | none => exact ⟨rfl, hc⟩
    | some c => exact ih c

/-- The path of a way spells the digits of the key that it has used. -/
theorem descend_digits (hb : 0 < b) (l : ℕ) (n : N) (key : ℕ) :
    ∃ p, T.nodeAt (l + 1) n p = some (T.descend (l + 1) n key).node ∧
      p.length + (T.descend (l + 1) n key).level = l + 1 ∧
      keyAt b (l + 1) (p ++ [(T.descend (l + 1) n key).idx]) =
        key % b ^ (l + 1) / b ^ ((T.descend (l + 1) n key).level - 1) *
          b ^ ((T.descend (l + 1) n key).level - 1) := by
  have hdigit : ∀ m, key % b ^ (m + 1) = key / b ^ m % b * b ^ m + key % b ^ m := by
    intro m
    rw [Nat.pow_succ, Nat.mod_mul, Nat.add_comm, Nat.mul_comm]
  induction l generalizing n with
  | zero =>
    refine ⟨[], ?_, ?_, ?_⟩
    · simp only [descend, T.child_one, nodeAt]
    · simp only [descend, T.child_one, List.length_nil]
    · simp only [descend, T.child_one, keyAt, List.nil_append, Nat.sub_self, Nat.pow_zero,
        Nat.div_one, Nat.mul_one, Nat.add_zero, Nat.zero_add, Nat.pow_one]
  | succ l ih =>
    rw [descend]
    have hpow : 0 < b ^ (l + 1) := Nat.pow_pos hb
    cases hc : T.child (l + 1 + 1) n (key / b ^ (l + 1) % b) with
    | none =>
      refine ⟨[], rfl, by simp, ?_⟩
      rw [hdigit (l + 1)]
      simp only [List.nil_append, keyAt, Nat.add_sub_cancel, Nat.add_zero]
      rw [Nat.add_comm (_ * _), Nat.add_mul_div_right _ _ hpow,
        Nat.div_eq_of_lt (Nat.mod_lt _ hpow), Nat.zero_add]
    | some c =>
      obtain ⟨p, hp, hlen, hkey⟩ := ih c
      dsimp only
      refine ⟨key / b ^ (l + 1) % b :: p, ?_, ?_, ?_⟩
      · simp only [nodeAt, Nat.mod_lt _ hb, if_true, hc, Option.bind_some, Nat.add_sub_cancel]
        exact hp
      · rw [List.length_cons]
        omega
      · rw [List.cons_append, keyAt, Nat.add_sub_cancel, hkey, hdigit (l + 1)]
        -- the digit in front is a multiple of what is dropped
        obtain ⟨d, hd⟩ : ∃ d, l + 1 = (T.descend (l + 1) c key).level - 1 + d :=
          ⟨l + 1 - ((T.descend (l + 1) c key).level - 1), by omega⟩
        generalize (T.descend (l + 1) c key).level - 1 = e at hd
        have he : 0 < b ^ e := Nat.pow_pos hb
        rw [hd, Nat.pow_add]
        have hmul : key / (b ^ e * b ^ d) % b * (b ^ e * b ^ d) =
            key / (b ^ e * b ^ d) % b * b ^ d * b ^ e := by ring
        rw [hmul, Nat.add_comm (_ * _) (key % _), Nat.add_mul_div_right _ _ he, Nat.add_mul,
          Nat.add_comm]

/-! ## Keys that agree -/

theorem div_pow_mono {a c k m : ℕ} (hk : k ≤ m) (h : a / b ^ k = c / b ^ k) :
    a / b ^ m = c / b ^ m := by
  obtain ⟨d, rfl⟩ : ∃ d, m = k + d := ⟨m - k, by omega⟩
  rw [Nat.pow_add, ← Nat.div_div_eq_div_mul, ← Nat.div_div_eq_div_mul, h]

/-- **The ways of keys that agree** from level `k` up both come down to it, or neither does. -/
theorem descend_level_iff {l k a c : ℕ} {n : N} (hl : 1 ≤ l) (h : a / b ^ k = c / b ^ k) :
    (T.descend l n a).level ≤ k ↔ (T.descend l n c).level ≤ k := by
  have hone : ∀ a c, a / b ^ k = c / b ^ k → (T.descend l n a).level ≤ k →
      (T.descend l n c).level ≤ k := by
    intro a c h ha
    by_contra hc
    have hsame := descend_block (T := T) (n := n) (div_pow_mono (m := (T.descend l n c).level - 1)
      (by omega) h) hl
    rw [hsame] at ha
    exact hc ha
  exact ⟨hone a c h, hone c a h.symm⟩

/-- Two ways that end at one entry are those of keys that agree. -/
theorem agree_of_descend (hb : 0 < b) {l a c : ℕ} {n : N} (ha : a < b ^ (l + 1))
    (hc : c < b ^ (l + 1))
    (hdistinct : ∀ p r x, T.nodeAt (l + 1) n p = some x → T.nodeAt (l + 1) n r = some x → p = r)
    (hnode : (T.descend (l + 1) n a).node = (T.descend (l + 1) n c).node)
    (hidx : (T.descend (l + 1) n a).idx = (T.descend (l + 1) n c).idx) :
    (T.descend (l + 1) n a).level = (T.descend (l + 1) n c).level ∧
      a / b ^ ((T.descend (l + 1) n c).level - 1) = c / b ^ ((T.descend (l + 1) n c).level - 1) := by
  obtain ⟨p, hp, hlenp, hkeyp⟩ := descend_digits (T := T) hb l n a
  obtain ⟨r, hr, hlenr, hkeyr⟩ := descend_digits (T := T) hb l n c
  rw [hnode] at hp
  obtain rfl := hdistinct p r _ hp hr
  have hlevel : (T.descend (l + 1) n a).level = (T.descend (l + 1) n c).level := by omega
  refine ⟨hlevel, ?_⟩
  rw [hidx, hkeyr, hlevel, Nat.mod_eq_of_lt ha, Nat.mod_eq_of_lt hc] at hkeyp
  exact (Nat.eq_of_mul_eq_mul_right (Nat.pow_pos hb) hkeyp).symm

/-! ## Growing -/

section Linked

variable {A : Type} {w w' : ℕ → N → ℕ → A} {l i a c : ℕ} {n u t : N} {q : List ℕ}

/-- Where the new node is linked: at the end of the way to `c`, above the lowest level, in a tree. -/
structure LinkedAt (T T' : Radix N b) (w w' : ℕ → N → ℕ → A) (l : ℕ) (n : N) (q : List ℕ) (u : N)
    (i : ℕ) (t : N) (c : ℕ) : Prop where
  linked : Linked T T' l n q u i t
  same : SameBut T T' w w' l n q i
  distinct : ∀ p r x, T.nodeAt l n p = some x → T.nodeAt l n r = some x → p = r
  key_lt : c < b ^ l
  node_eq : (T.descend l n c).node = u
  idx_eq : (T.descend l n c).idx = i
  two_le : 2 ≤ (T.descend l n c).level

theorem LinkedAt.length (hb : 0 < b) (h : LinkedAt T T' w w' (l + 1) n q u i t c) :
    l + 1 - q.length = (T.descend (l + 1) n c).level ∧ q.length < l + 1 := by
  obtain ⟨p, hp, hlen, -⟩ := descend_digits (T := T) hb l n c
  rw [h.node_eq] at hp
  obtain rfl := h.distinct p q u hp h.linked.node
  have := h.two_le
  omega

/-- The ways of the keys that agree with `c` end in the new node now. -/
theorem LinkedAt.descend_agree (hb : 0 < b) (h : LinkedAt T T' w w' (l + 1) n q u i t c)
    (ha : a / b ^ ((T.descend (l + 1) n c).level - 1) =
      c / b ^ ((T.descend (l + 1) n c).level - 1)) :
    (T'.descend (l + 1) n a).node = t ∧
      (T'.descend (l + 1) n a).level = (T.descend (l + 1) n c).level - 1 := by
  obtain ⟨hlevel, hlen⟩ := h.length hb
  have hend : T.descend (l + 1) n a = T.descend (l + 1) n c := descend_block ha (by omega)
  have hchild := h.linked.child
  obtain ⟨m, hm⟩ : ∃ m, (T.descend (l + 1) n c).level = m + 1 + 1 :=
    ⟨(T.descend (l + 1) n c).level - 2, by have := h.two_le; omega⟩
  rcases descend_replace hb h.linked.node hlen h.linked.free h.same a with
    ⟨-, -, -, hidx, hway⟩ | ⟨hway, -⟩
  · rw [hlevel, hm, Nat.add_sub_cancel] at hidx
    rw [hlevel, hm] at hchild hway
    -- the new node is empty, and so the way ends in it
    have hnew : T'.descend (m + 1) t a = ⟨t, a / b ^ m % b, m + 1, a / b ^ m * b ^ m⟩ := by
      rw [descend, h.linked.empty]
    rw [hway, hm, descend, hidx, hchild]
    dsimp only
    rw [hnew]
    exact ⟨rfl, rfl⟩
  · have hnone : T'.child _ _ _ = none := (descend_end l n a).2
    rw [hway, hend, h.node_eq, h.idx_eq, ← hlevel, hchild] at hnone
    cases hnone

/-- All other ways end where they ended. -/
theorem LinkedAt.descend_other (hb : 0 < b) (h : LinkedAt T T' w w' (l + 1) n q u i t c)
    (hlt : a < b ^ (l + 1))
    (ha : a / b ^ ((T.descend (l + 1) n c).level - 1) ≠
      c / b ^ ((T.descend (l + 1) n c).level - 1)) :
    T'.descend (l + 1) n a = T.descend (l + 1) n a ∧
      w' (T.descend (l + 1) n a).level (T.descend (l + 1) n a).node (T.descend (l + 1) n a).idx =
        w (T.descend (l + 1) n a).level (T.descend (l + 1) n a).node (T.descend (l + 1) n a).idx := by
  rcases descend_replace hb h.linked.node (h.length hb).2 h.linked.free h.same a with
    ⟨hu, hi, -⟩ | hsame
  · refine absurd ?_ ha
    exact (agree_of_descend hb hlt h.key_lt h.distinct (hu.trans h.node_eq.symm)
      (hi.trans h.idx_eq.symm)).2
  · exact hsame

/-- **How far down the ways of the grown tree come**: as far as before, and the ways of the keys that
agree with `c` to the new node. -/
theorem LinkedAt.level_le_iff (hb : 0 < b) (h : LinkedAt T T' w w' (l + 1) n q u i t c)
    (hlt : a < b ^ (l + 1)) {k : ℕ} :
    (T'.descend (l + 1) n a).level ≤ k ↔ (T.descend (l + 1) n a).level ≤ k ∨
      ((T.descend (l + 1) n c).level - 1 ≤ k ∧
        a / b ^ ((T.descend (l + 1) n c).level - 1) =
          c / b ^ ((T.descend (l + 1) n c).level - 1)) := by
  by_cases ha : a / b ^ ((T.descend (l + 1) n c).level - 1) =
      c / b ^ ((T.descend (l + 1) n c).level - 1)
  · have hend : T.descend (l + 1) n a = T.descend (l + 1) n c := descend_block ha (by omega)
    rw [(h.descend_agree hb ha).2, hend]
    constructor
    · intro hle
      exact Or.inr ⟨hle, ha⟩
    · rintro (hle | ⟨hle, -⟩)
      · omega
      · exact hle
  · rw [(h.descend_other hb hlt ha).1]
    constructor
    · exact Or.inl
    · rintro (hle | ⟨-, heq⟩)
      · exact hle
      · exact absurd heq ha

end Linked

end Svmx.Radix
