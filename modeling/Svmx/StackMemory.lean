/-
Byte-addressed memory, quadwords in it, and a stack that grows downwards.

`Holds m a xs` says that the quadwords from `a` on are `xs`, the top of the stack first. Pushing and
popping change the list at its head (`Holds.push`, `Holds.pop`); a write elsewhere leaves it alone
(`Holds.of_keeps`). `Keeps a n m m'` is the frame condition: no byte outside the `n` bytes from `a` on
has changed.
-/
import Mathlib.Data.BitVec
import Mathlib.Tactic.Ring

set_option autoImplicit false

namespace StackMemory

abbrev Addr := BitVec 64

/-- A memory of bytes. -/
abbrev Mem := Addr → BitVec 8

/-! ## Addresses -/

theorem add_ofNat_ofNat (a : Addr) (n k : Nat) :
    a + BitVec.ofNat 64 n + BitVec.ofNat 64 k = a + BitVec.ofNat 64 (n + k) := by
  rw [BitVec.ofNat_add, BitVec.add_assoc]

theorem sub_ofNat_ofNat (a : Addr) (n k : Nat) :
    a - BitVec.ofNat 64 n - BitVec.ofNat 64 k = a - BitVec.ofNat 64 (n + k) := by
  rw [BitVec.ofNat_add]
  ring

theorem sub_ofNat_add (a : Addr) (n k : Nat) :
    a - BitVec.ofNat 64 (n + k) + BitVec.ofNat 64 k = a - BitVec.ofNat 64 n := by
  rw [BitVec.ofNat_add]
  ring

/-- The next quadword. -/
theorem add_eight (a : Addr) (n : Nat) :
    a + 8 + BitVec.ofNat 64 (8 * n) = a + BitVec.ofNat 64 (8 * (n + 1)) := by
  rw [Nat.mul_succ, Nat.add_comm]
  exact add_ofNat_ofNat a 8 (8 * n)

theorem sub_eight (a : Addr) (n : Nat) :
    a - 8 - BitVec.ofNat 64 (8 * n) = a - BitVec.ofNat 64 (8 * (n + 1)) := by
  rw [Nat.mul_succ, Nat.add_comm]
  exact sub_ofNat_ofNat a 8 (8 * n)

/-! ## Quadwords -/

/-- `x` is one of the `n` bytes from `a` on, with wrap-around. -/
def Within (a : Addr) (n : Nat) (x : Addr) : Prop := (x - a).toNat < n

instance (a : Addr) (n : Nat) (x : Addr) : Decidable (Within a n x) :=
  inferInstanceAs (Decidable ((x - a).toNat < n))

/-- The quadword at `a`, the low byte first. -/
def read (m : Mem) (a : Addr) : BitVec 64 :=
  m (a + 7) ++ m (a + 6) ++ m (a + 5) ++ m (a + 4) ++ m (a + 3) ++ m (a + 2) ++ m (a + 1) ++ m a

def write (m : Mem) (a : Addr) (v : BitVec 64) : Mem := fun x =>
  if Within a 8 x then v.extractLsb' (8 * (x - a).toNat) 8 else m x

/-- A quadword depends on its eight bytes only. -/
theorem read_congr {m m' : Mem} {a : Addr} (h : ∀ x, Within a 8 x → m' x = m x) :
    read m' a = read m a := by
  have hb (i : Nat) (hi : i < 8) : m' (a + BitVec.ofNat 64 i) = m (a + BitVec.ofNat 64 i) := by
    apply h
    unfold Within
    simp only [BitVec.add_comm a, BitVec.add_sub_cancel, BitVec.toNat_ofNat]
    omega
  have h0 := hb 0 (by omega)
  simp only [BitVec.add_zero] at h0
  unfold read
  rw [h0, show m' (a + 1) = _ from hb 1 (by omega), show m' (a + 2) = _ from hb 2 (by omega),
    show m' (a + 3) = _ from hb 3 (by omega), show m' (a + 4) = _ from hb 4 (by omega),
    show m' (a + 5) = _ from hb 5 (by omega), show m' (a + 6) = _ from hb 6 (by omega),
    show m' (a + 7) = _ from hb 7 (by omega)]
  rfl

/-- A byte of a quadword just written. -/
theorem write_byte (m : Mem) (a : Addr) (v : BitVec 64) (i : Nat) (hi : i < 8) :
    write m a v (a + BitVec.ofNat 64 i) = v.extractLsb' (8 * i) 8 := by
  have hd : (a + BitVec.ofNat 64 i - a).toNat = i := by
    simp only [BitVec.add_comm a, BitVec.add_sub_cancel, BitVec.toNat_ofNat]
    omega
  have hw : Within a 8 (a + BitVec.ofNat 64 i) := by
    unfold Within
    omega
  unfold write
  rw [if_pos hw, hd]

/-- The eight bytes of a quadword make it up. -/
theorem append_bytes (v : BitVec 64) :
    v.extractLsb' 56 8 ++ v.extractLsb' 48 8 ++ v.extractLsb' 40 8 ++ v.extractLsb' 32 8 ++
      v.extractLsb' 24 8 ++ v.extractLsb' 16 8 ++ v.extractLsb' 8 8 ++ v.extractLsb' 0 8 = v := by
  apply BitVec.eq_of_getLsbD_eq
  intro i hi
  simp only [BitVec.getLsbD_append, BitVec.getLsbD_extractLsb']
  grind

@[simp] theorem read_write (m : Mem) (a : Addr) (v : BitVec 64) : read (write m a v) a = v := by
  have h0 := write_byte m a v 0 (by omega)
  simp only [BitVec.add_zero] at h0
  unfold read
  rw [h0, show write m a v (a + 1) = _ from write_byte m a v 1 (by omega),
    show write m a v (a + 2) = _ from write_byte m a v 2 (by omega),
    show write m a v (a + 3) = _ from write_byte m a v 3 (by omega),
    show write m a v (a + 4) = _ from write_byte m a v 4 (by omega),
    show write m a v (a + 5) = _ from write_byte m a v 5 (by omega),
    show write m a v (a + 6) = _ from write_byte m a v 6 (by omega),
    show write m a v (a + 7) = _ from write_byte m a v 7 (by omega)]
  exact append_bytes v

/-! ## Frames -/

/-- No byte outside the `n` bytes from `a` on has changed. -/
def Keeps (a : Addr) (n : Nat) (m m' : Mem) : Prop := ∀ x, ¬ Within a n x → m' x = m x

theorem Keeps.refl (a : Addr) (n : Nat) (m : Mem) : Keeps a n m m := fun _ _ => rfl

theorem Keeps.trans {a : Addr} {n : Nat} {m m' m'' : Mem} (h : Keeps a n m m')
    (h' : Keeps a n m' m'') : Keeps a n m m'' :=
  fun x hx => (h' x hx).trans (h x hx)

/-- A frame may be widened. -/
theorem Keeps.mono {a b : Addr} {n k : Nat} {m m' : Mem} (h : Keeps b k m m')
    (hsub : ∀ x, Within b k x → Within a n x) : Keeps a n m m' :=
  fun x hx => h x fun hb => hx (hsub x hb)

theorem keeps_write (m : Mem) (a : Addr) (v : BitVec 64) : Keeps a 8 m (write m a v) := by
  intro x hx
  unfold write
  rw [if_neg hx]

/-- A byte `d` bytes later. -/
theorem sub_add_shift (a x : Addr) (d : Nat) :
    x - a = x - (a + BitVec.ofNat 64 d) + BitVec.ofNat 64 d := by
  apply BitVec.eq_of_toNat_eq
  simp only [BitVec.toNat_sub, BitVec.toNat_add]
  have ha := a.isLt
  have hx := x.isLt
  have hd := (BitVec.ofNat 64 d).isLt
  omega

/-- `k` bytes lie among `n` bytes, `d` bytes after their start. -/
theorem Within.shift {a b x : Addr} {n k d : Nat} (h : Within b k x)
    (hb : b = a + BitVec.ofNat 64 d) (hd : d + k ≤ n) : Within a n x := by
  subst hb
  unfold Within at *
  rw [sub_add_shift a x d, BitVec.toNat_add, BitVec.toNat_ofNat]
  omega

/-- Bytes that start at the end of others, or later, are none of them. -/
theorem Within.apart {a b x : Addr} {n k d : Nat} (h : Within a n x)
    (hb : b = a + BitVec.ofNat 64 d) (hn : n ≤ d) (hd : d + k ≤ 2 ^ 64) : ¬ Within b k x := by
  subst hb
  intro hk
  unfold Within at *
  rw [sub_add_shift a x d, BitVec.toNat_add, BitVec.toNat_ofNat] at h
  omega

/-! ## The live stack -/

/-- The quadwords from `a` on are `xs`. -/
def Holds (m : Mem) : Addr → List (BitVec 64) → Prop
  | _, [] => True
  | a, x :: xs => read m a = x ∧ Holds m (a + 8) xs

@[simp] theorem holds_nil (m : Mem) (a : Addr) : Holds m a [] := trivial

@[simp] theorem holds_cons (m : Mem) (a : Addr) (x : BitVec 64) (xs : List (BitVec 64)) :
    Holds m a (x :: xs) ↔ read m a = x ∧ Holds m (a + 8) xs := Iff.rfl

/-- The part of the stack below the first `xs.length` quadwords. -/
theorem Holds.append_right {m : Mem} {a : Addr} {xs ys : List (BitVec 64)}
    (h : Holds m a (xs ++ ys)) : Holds m (a + BitVec.ofNat 64 (8 * xs.length)) ys := by
  induction xs generalizing a with
  | nil => simpa using h
  | cons x xs ih =>
    have hrec := ih h.2
    rwa [add_eight] at hrec

/-- **A live stack is kept** by a change of the memory elsewhere. -/
theorem Holds.of_eq {m m' : Mem} {a : Addr} {xs : List (BitVec 64)} (h : Holds m a xs)
    (hlen : 8 * xs.length ≤ 2 ^ 64) (heq : ∀ x, Within a (8 * xs.length) x → m' x = m x) :
    Holds m' a xs := by
  induction xs generalizing a with
  | nil => trivial
  | cons x xs ih =>
    rw [List.length_cons] at hlen heq
    constructor
    · rw [← h.1]
      apply read_congr
      intro y hy
      apply heq
      exact hy.shift (d := 0) (by simp) (by omega)
    · apply ih h.2 (by omega)
      intro y hy
      apply heq
      exact hy.shift (d := 8) rfl (by omega)

/-- The bytes that change lie below the live stack. -/
theorem Holds.of_keeps_below {m m' : Mem} {a b : Addr} {n d : Nat} {xs : List (BitVec 64)}
    (h : Holds m a xs) (hm : Keeps b n m m') (ha : a = b + BitVec.ofNat 64 d) (hn : n ≤ d)
    (hlen : d + 8 * xs.length ≤ 2 ^ 64) : Holds m' a xs := by
  apply h.of_eq (by omega)
  intro x hx
  apply hm
  intro hb
  exact hb.apart ha hn hlen hx

/-- **A push.** -/
theorem Holds.push {m : Mem} {a : Addr} {xs : List (BitVec 64)} (h : Holds m a xs)
    (v : BitVec 64) (hlen : 8 * (xs.length + 1) ≤ 2 ^ 64) :
    Holds (write m (a - 8) v) (a - 8) (v :: xs) := by
  have hback : a - 8 + 8 = a := BitVec.sub_add_cancel a 8
  constructor
  · exact read_write m (a - 8) v
  · rw [hback]
    apply h.of_keeps_below (keeps_write m (a - 8) v) (d := 8) _ (by omega) (by omega)
    exact hback.symm

/-- The stack is what is read from it. -/
def reads (m : Mem) : Addr → Nat → List (BitVec 64)
  | _, 0 => []
  | a, n + 1 => read m a :: reads m (a + 8) n

@[simp] theorem length_reads (m : Mem) (a : Addr) (n : Nat) : (reads m a n).length = n := by
  induction n generalizing a with
  | zero => rfl
  | succ n ih => simp [reads, ih]

/-- A live stack with its upper quadwords read anew. -/
theorem holds_reads_append {m : Mem} {a : Addr} {n : Nat} {ys : List (BitVec 64)}
    (h : Holds m (a + BitVec.ofNat 64 (8 * n)) ys) : Holds m a (reads m a n ++ ys) := by
  induction n generalizing a with
  | zero => simpa [reads] using h
  | succ n ih =>
    refine ⟨rfl, ih ?_⟩
    rwa [add_eight]

/-- What a stack holds is what is read from it. -/
theorem Holds.reads_eq {m : Mem} {a : Addr} {xs ys : List (BitVec 64)} (h : Holds m a (xs ++ ys)) :
    reads m a xs.length = xs := by
  induction xs generalizing a with
  | nil => rfl
  | cons x xs ih => rw [List.length_cons, reads, h.1, ih h.2]

end StackMemory
