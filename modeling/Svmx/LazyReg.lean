/-
A register that software works on through a copy, brought up to date lazily both ways.

The processor uses the register itself, software the copy. `avail` says that the copy may be read,
`dirty` that it must be stored before the processor uses the register again. So there are three states:
only the register holds the value, both do, or only the copy does; the fourth one, a copy to be stored
that may not be read, never arises.
-/
import Mathlib.Tactic.Common

set_option autoImplicit false

namespace LazyReg

/-- A register with its copy. -/
structure Reg (V : Type*) where
  home : V
  copy : V
  avail : Bool
  dirty : Bool

variable {V : Type*} {r : Reg V}

/-- What the register holds, as software sees it. -/
def Reg.value (r : Reg V) : V := if r.avail then r.copy else r.home

/-- One of the three states. -/
structure Reg.Coherent (r : Reg V) : Prop where
  avail_of_dirty : r.dirty = true → r.avail = true
  clean : r.avail = true → r.dirty = false → r.copy = r.home

/-- The copy is made. -/
def Reg.fetch (r : Reg V) : Reg V := { r with copy := r.home, avail := true }

/-- The copy is changed by software. -/
def Reg.write (x : V) (r : Reg V) : Reg V := { r with copy := x, avail := true, dirty := true }

/-- The copy is stored where that is needed. -/
def Reg.store (r : Reg V) : Reg V := if r.dirty then { r with home := r.copy } else r

/-- The processor uses the register, after which the copy is of no use and nothing is to be stored. -/
def Reg.use (f : V → V) (r : Reg V) : Reg V :=
  { r with home := f r.home, avail := false, dirty := false }

/-! ## Rules -/

/-- Fetching a copy that was not there changes nothing that software sees. -/
theorem Reg.Coherent.fetch (h : r.Coherent) (ha : r.avail = false) :
    r.fetch.Coherent ∧ r.fetch.value = r.value := by
  refine ⟨⟨fun _ => rfl, fun _ _ => rfl⟩, ?_⟩
  simp [Reg.value, Reg.fetch, ha]

theorem Reg.write_coherent (x : V) (r : Reg V) : (r.write x).Coherent ∧ (r.write x).value = x :=
  ⟨⟨fun _ => rfl, fun _ hd => absurd hd Bool.noConfusion⟩, rfl⟩

/-- **After the store** the processor finds in the register what software saw. -/
theorem Reg.Coherent.store_home (h : r.Coherent) : r.store.home = r.value := by
  unfold Reg.store Reg.value
  cases hd : r.dirty with
  | true =>
    rw [h.avail_of_dirty hd]
    rfl
  | false =>
    cases ha : r.avail with
    | true => exact (h.clean ha hd).symm
    | false => rfl

/-- The store is not seen. -/
theorem Reg.Coherent.store (h : r.Coherent) : r.store.Coherent ∧ r.store.value = r.value := by
  have hhome := h.store_home
  unfold Reg.store at hhome ⊢
  split
  next hd =>
    refine ⟨⟨fun _ => h.avail_of_dirty hd, fun _ _ => rfl⟩, ?_⟩
    simp [Reg.value, h.avail_of_dirty hd]
  next => exact ⟨h, rfl⟩

/-- **A use after the store**: software sees what the processor has made of the value. -/
theorem Reg.Coherent.use_store (h : r.Coherent) (f : V → V) :
    (r.store.use f).Coherent ∧ (r.store.use f).value = f r.value := by
  refine ⟨⟨fun hd => absurd hd Bool.false_ne_true, fun ha => absurd ha Bool.false_ne_true⟩, ?_⟩
  have hvalue : (r.store.use f).value = f r.store.home := rfl
  rw [hvalue, h.store_home]

end LazyReg
