/-
Transition systems whose steps may meet a condition or not.

`Run sys ok` are the states reached from an initial state by steps that all meet `ok`, and
`Run.invariant` carries an invariant along such runs.
-/
import Mathlib.Logic.Basic

set_option autoImplicit false

namespace Transition

variable {σ α : Type*}

/-- A transition system with labelled steps. -/
structure System (σ α : Type*) where
  init : σ → Prop
  step : σ → α → σ → Prop

/-- The states reached by steps that all meet `ok`. -/
inductive Run (sys : System σ α) (ok : σ → α → Prop) : σ → Prop where
  | start (s : σ) (h : sys.init s) : Run sys ok s
  | step (s : σ) (a : α) (s' : σ) (h : Run sys ok s) (hok : ok s a) (hstep : sys.step s a s') :
      Run sys ok s'

variable {sys : System σ α} {ok : σ → α → Prop}

/-- The invariant rule. -/
theorem Run.invariant (Inv : σ → Prop) (hinit : ∀ s, sys.init s → Inv s)
    (hstep : ∀ s a s', Inv s → ok s a → sys.step s a s' → Inv s') {s : σ} (h : Run sys ok s) :
    Inv s := by
  induction h with
  | start s h => exact hinit s h
  | step s a s' _ hok hs ih => exact hstep s a s' ih hok hs

end Transition
