/-
Searching a bitmap for one bit.

A search starts at a hint, goes on from bit 0 where it finds nothing up to the end, and fails only if
no bit is set (`Searches`). What is set of a bitmap of a given size is a finite set (`setBits`), and
clearing a bit takes one element out of it.
-/
import Mathlib.Data.Finset.Card
import Mathlib.Data.Finset.Range
import Mathlib.Logic.Function.Basic
import Mathlib.Tactic.Common

set_option autoImplicit false

namespace BitFind

variable {size : ℕ} {bits : ℕ → Bool} {i : ℕ}

/-! ## The bits that are set -/

/-- The bits of a bitmap of `size` bits that are set. -/
def setBits (size : ℕ) (bits : ℕ → Bool) : Finset ℕ := (Finset.range size).filter fun i => bits i = true

theorem mem_setBits : i ∈ setBits size bits ↔ i < size ∧ bits i = true := by
  rw [setBits, Finset.mem_filter, Finset.mem_range]

theorem setBits_eq_empty_iff : setBits size bits = ∅ ↔ ∀ i < size, bits i = false := by
  rw [Finset.eq_empty_iff_forall_notMem]
  constructor
  · intro h i hi
    rw [← Bool.not_eq_true]
    intro hbit
    exact h i (mem_setBits.mpr ⟨hi, hbit⟩)
  · intro h i hi
    obtain ⟨hlt, hbit⟩ := mem_setBits.mp hi
    rw [h i hlt] at hbit
    cases hbit

theorem setBits_clear (size : ℕ) (bits : ℕ → Bool) (i : ℕ) :
    setBits size (Function.update bits i false) = (setBits size bits).erase i := by
  ext j
  rw [Finset.mem_erase, mem_setBits, mem_setBits]
  by_cases hj : j = i
  · subst hj
    simp
  · rw [Function.update_of_ne hj]
    exact ⟨fun h => ⟨hj, h⟩, fun h => h.2⟩

/-- Clearing a bit that is set leaves one less. -/
theorem card_clear (h : i ∈ setBits size bits) :
    (setBits size (Function.update bits i false)).card + 1 = (setBits size bits).card := by
  rw [setBits_clear]
  exact Finset.card_erase_add_one h

/-! ## The search -/

/-- A search for a bit that is set: the first one from the hint on, else the first one of all. -/
structure Searches (size : ℕ) (find : (ℕ → Bool) → ℕ → Option ℕ) : Prop where
  mem : ∀ {bits hint i}, find bits hint = some i → i ∈ setBits size bits
  empty : ∀ {bits hint}, find bits hint = none → setBits size bits = ∅
  ahead : ∀ {bits hint i}, find bits hint = some i → hint ≤ i →
    ∀ j, hint ≤ j → j < i → bits j = false
  wrapped : ∀ {bits hint i}, find bits hint = some i → i < hint →
    (∀ j, hint ≤ j → j < size → bits j = false) ∧ ∀ j < i, bits j = false

section Find

variable {find : (ℕ → Bool) → ℕ → Option ℕ} {hint : ℕ}

theorem Searches.none_iff (h : Searches size find) : find bits hint = none ↔ setBits size bits = ∅ := by
  constructor
  · exact h.empty
  · intro hempty
    rcases hfind : find bits hint with _ | i
    · rfl
    · have hmem := h.mem hfind
      rw [hempty] at hmem
      cases hmem

/-- What is found from a hint on is the first set bit there. -/
theorem Searches.next (h : Searches size find) (hi : i ∈ setBits size bits) (hle : hint ≤ i)
    (hfirst : ∀ j ∈ setBits size bits, hint ≤ j → i ≤ j) : find bits hint = some i := by
  obtain ⟨hlt, hbit⟩ := mem_setBits.mp hi
  rcases hfind : find bits hint with _ | k
  · rw [h.empty hfind] at hi
    cases hi
  · have hk := h.mem hfind
    rcases Nat.lt_or_ge k hint with hback | hahead
    · -- a search that wraps has passed over `i`
      rw [(h.wrapped hfind hback).1 i hle hlt] at hbit
      cases hbit
    · rcases Nat.eq_or_lt_of_le (hfirst k hk hahead) with rfl | hik
      · rfl
      · rw [h.ahead hfind hahead i hle hik] at hbit
        cases hbit

end Find

/-- The first set bit among the `n` bits from `start` on. -/
def firstFrom (bits : ℕ → Bool) : ℕ → ℕ → Option ℕ
  | 0, _ => none
  | n + 1, start => if bits start then some start else firstFrom bits n (start + 1)

/-- The search, bit by bit. -/
def search (size : ℕ) (bits : ℕ → Bool) (hint : ℕ) : Option ℕ :=
  match firstFrom bits (size - hint) hint with
  | some i => some i
  | none => firstFrom bits (min hint size) 0

theorem firstFrom_some {n start : ℕ} (h : firstFrom bits n start = some i) :
    start ≤ i ∧ i < start + n ∧ bits i = true ∧ ∀ j, start ≤ j → j < i → bits j = false := by
  induction n generalizing start with
  | zero => cases h
  | succ n ih =>
    rw [firstFrom] at h
    split at h
    · next hbit =>
      cases h
      exact ⟨Nat.le_refl _, by omega, hbit, fun j hj hlt => absurd hlt (by omega)⟩
    · next hbit =>
      obtain ⟨hle, hlt, hset, hbefore⟩ := ih h
      refine ⟨by omega, by omega, hset, fun j hj hji => ?_⟩
      rcases Nat.eq_or_lt_of_le hj with rfl | hj
      · simpa using hbit
      · exact hbefore j hj hji

theorem firstFrom_none {n start : ℕ} (h : firstFrom bits n start = none) :
    ∀ j, start ≤ j → j < start + n → bits j = false := by
  induction n generalizing start with
  | zero =>
    intro j hj hlt
    omega
  | succ n ih =>
    rw [firstFrom] at h
    split at h
    · cases h
    · next hbit =>
      intro j hj hlt
      rcases Nat.eq_or_lt_of_le hj with rfl | hj
      · simpa using hbit
      · exact ih h j hj (by omega)

/-- The search does what a search should. -/
theorem search_searches (size : ℕ) : Searches size (search size) := by
  have hcases : ∀ {bits hint i}, search size bits hint = some i →
      firstFrom bits (size - hint) hint = some i ∨
        (firstFrom bits (size - hint) hint = none ∧ firstFrom bits (min hint size) 0 = some i) := by
    intro bits hint i h
    rw [search] at h
    split at h
    · next heq => exact Or.inl (heq.trans h)
    · next heq => exact Or.inr ⟨heq, h⟩
  refine ⟨?_, ?_, ?_, ?_⟩
  · intro bits hint i h
    rw [mem_setBits]
    rcases hcases h with h | ⟨-, h⟩
    · obtain ⟨hle, hlt, hset, -⟩ := firstFrom_some h
      exact ⟨by omega, hset⟩
    · obtain ⟨-, hlt, hset, -⟩ := firstFrom_some h
      exact ⟨by omega, hset⟩
  · intro bits hint h
    rw [setBits_eq_empty_iff]
    intro i hi
    rw [search] at h
    split at h
    · cases h
    · next heq =>
      rcases Nat.lt_or_ge i hint with hlt | hge
      · exact firstFrom_none h i (Nat.zero_le i) (by omega)
      · exact firstFrom_none heq i hge (by omega)
  · intro bits hint i h hle
    rcases hcases h with h | ⟨-, h⟩
    · exact (firstFrom_some h).2.2.2
    · obtain ⟨-, hlt, -⟩ := firstFrom_some h
      omega
  · intro bits hint i h hlt
    rcases hcases h with h | ⟨hnone, h⟩
    · have hle := (firstFrom_some h).1
      omega
    · refine ⟨fun j hj hjs => firstFrom_none hnone j hj (by omega), fun j hj => ?_⟩
      exact (firstFrom_some h).2.2.2 j (Nat.zero_le j) hj

end BitFind
