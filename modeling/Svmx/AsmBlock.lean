/-
Machine code as labelled blocks of instructions.

A block runs instruction by instruction until one transfers control; at its end control falls through
to the next block. `run` follows the blocks with fuel, and `Returns` is that some fuel is enough. The
rules `Returns.ret`, `Returns.jump` and `Returns.fall` take one block each; `runBlock_append` cuts a
block in two.
-/
import Mathlib.Tactic.Common

set_option autoImplicit false

namespace AsmBlock

variable {L I σ : Type*}

/-- Where control goes after an instruction. -/
inductive Next (L σ : Type*) where
  | step (s : σ)
  | jump (l : L) (s : σ)
  | ret (s : σ)

/-- Code: the instructions at each label, and the label that follows them. -/
structure Program (L I σ : Type*) where
  code : L → List I
  fall : L → Option L
  exec : I → σ → Next L σ

namespace Program

variable (p : Program L I σ)

/-! ## One block -/

def runBlock : List I → σ → Next L σ
  | [], s => .step s
  | i :: is, s =>
    match p.exec i s with
    | .step t => runBlock is t
    | .jump l t => .jump l t
    | .ret t => .ret t

@[simp] theorem runBlock_nil (s : σ) : p.runBlock [] s = .step s := rfl

theorem runBlock_cons_step {i : I} {is : List I} {s t : σ} (h : p.exec i s = .step t) :
    p.runBlock (i :: is) s = p.runBlock is t := by
  rw [runBlock, h]

theorem runBlock_cons_jump {i : I} {is : List I} {s t : σ} {l : L} (h : p.exec i s = .jump l t) :
    p.runBlock (i :: is) s = .jump l t := by
  rw [runBlock, h]

theorem runBlock_cons_ret {i : I} {is : List I} {s t : σ} (h : p.exec i s = .ret t) :
    p.runBlock (i :: is) s = .ret t := by
  rw [runBlock, h]

/-- **A block is cut** where its first part ends. -/
theorem runBlock_append {is js : List I} {s t : σ} (h : p.runBlock is s = .step t) :
    p.runBlock (is ++ js) s = p.runBlock js t := by
  induction is generalizing s with
  | nil =>
    rw [runBlock_nil] at h
    cases h
    rfl
  | cons i is ih =>
    simp only [List.cons_append, runBlock] at h ⊢
    cases he : p.exec i s with
    | step u =>
      simp only [he] at h
      exact ih h
    | jump l u => simp [he] at h
    | ret u => simp [he] at h

/-! ## Runs -/

/-- `n` blocks at most, up to the return. -/
def run : Nat → L → σ → Option σ
  | 0, _, _ => none
  | n + 1, l, s =>
    match p.runBlock (p.code l) s with
    | .ret t => some t
    | .jump k t => run n k t
    | .step t =>
      match p.fall l with
      | some k => run n k t
      | none => none

/-- The code at `l` returns, in the state `t`. -/
def Returns (l : L) (s t : σ) : Prop := ∃ n, p.run n l s = some t

variable {p}

theorem Returns.ret {l : L} {s t : σ} (h : p.runBlock (p.code l) s = .ret t) : p.Returns l s t := by
  refine ⟨1, ?_⟩
  simp [run, h]

theorem Returns.jump {l k : L} {s t u : σ} (h : p.runBlock (p.code l) s = .jump k t)
    (hk : p.Returns k t u) : p.Returns l s u := by
  obtain ⟨n, hn⟩ := hk
  refine ⟨n + 1, ?_⟩
  simp [run, h, hn]

theorem Returns.fall {l k : L} {s t u : σ} (h : p.runBlock (p.code l) s = .step t)
    (hl : p.fall l = some k) (hk : p.Returns k t u) : p.Returns l s u := by
  obtain ⟨n, hn⟩ := hk
  refine ⟨n + 1, ?_⟩
  simp [run, h, hl, hn]

/-- More fuel changes nothing. -/
theorem run_succ {n : Nat} {l : L} {s t : σ} (h : p.run n l s = some t) :
    p.run (n + 1) l s = some t := by
  induction n generalizing l s with
  | zero => simp [run] at h
  | succ n ih =>
    rw [run] at h ⊢
    cases hb : p.runBlock (p.code l) s with
    | ret u => simpa [hb] using h
    | jump k u =>
      simp only [hb] at h ⊢
      exact ih h
    | step u =>
      simp only [hb] at h ⊢
      cases hf : p.fall l with
      | none => simp [hf] at h
      | some k =>
        simp only [hf] at h ⊢
        exact ih h

theorem run_add {n : Nat} {l : L} {s t : σ} (h : p.run n l s = some t) (k : Nat) :
    p.run (n + k) l s = some t := by
  induction k with
  | zero => exact h
  | succ k ih => exact run_succ ih

/-- **The code returns in one state at most.** -/
theorem Returns.unique {l : L} {s t u : σ} (h : p.Returns l s t) (h' : p.Returns l s u) : t = u := by
  obtain ⟨n, hn⟩ := h
  obtain ⟨k, hk⟩ := h'
  have hn' := run_add hn k
  have hk' := run_add hk n
  rw [Nat.add_comm, hn'] at hk'
  exact Option.some.inj hk'

end Program

end AsmBlock
