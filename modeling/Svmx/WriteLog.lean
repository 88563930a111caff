/-
A store, and a log of writes to it.

`replay log m` is what the store holds after the writes of `log`, in order, if it held `m` before. The
last write to a cell decides what it holds, and a cell that no write names keeps what it held
(`replay_eq_getLast`).
-/
import Mathlib.Logic.Function.Basic
import Mathlib.Data.List.Induction
import Mathlib.Tactic.Common

set_option autoImplicit false

namespace WriteLog

variable {F X : Type*} [DecidableEq F] {log : List (F × X)} {m m' : F → Option X} {f : F}

/-- The store after the writes of a log; `none` is a cell that was never written. -/
def replay (log : List (F × X)) (m : F → Option X) : F → Option X :=
  log.foldl (fun m w => Function.update m w.1 (some w.2)) m

@[simp] theorem replay_nil (m : F → Option X) : replay [] m = m := rfl

theorem replay_cons (w : F × X) (log : List (F × X)) (m : F → Option X) :
    replay (w :: log) m = replay log (Function.update m w.1 (some w.2)) := rfl

theorem replay_append (log log' : List (F × X)) (m : F → Option X) :
    replay (log ++ log') m = replay log' (replay log m) := List.foldl_append

/-- The values written to a cell, in order. -/
def written (f : F) (log : List (F × X)) : List X :=
  (log.filter fun w => decide (w.1 = f)).map Prod.snd

theorem written_append (f : F) (log log' : List (F × X)) :
    written f (log ++ log') = written f log ++ written f log' := by
  rw [written, List.filter_append, List.map_append]
  rfl

theorem written_eq_nil (h : ∀ w ∈ log, w.1 ≠ f) : written f log = [] := by
  rw [written, List.map_eq_nil_iff, List.filter_eq_nil_iff]
  intro w hw
  simpa using h w hw

/-- **The last write decides.** -/
theorem replay_eq_getLast (log : List (F × X)) (m : F → Option X) (f : F) :
    replay log m f = (written f log).getLast?.or (m f) := by
  induction log using List.reverseRecOn with
  | nil => rfl
  | append_singleton log w ih =>
    rw [replay_append, written_append, replay_cons, replay_nil]
    by_cases hw : w.1 = f
    · have hone : written f [w] = [w.2] := by simp [written, hw]
      rw [hone, List.getLast?_concat, ← hw, Function.update_self, Option.some_or]
    · have hnone : written f [w] = [] := written_eq_nil (by simpa using hw)
      rw [hnone, List.append_nil, Function.update_of_ne (Ne.symm hw), ih]

end WriteLog
