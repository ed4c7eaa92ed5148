import Mathlib.Tactic.Common

/-!
# Reachable states

The states a transition system can reach, and the rule that an invariant of the steps holds in all
of them.
-/

section Reachable

variable {σ : Type*}

/-- The states reached from those in `init` by any number of steps. -/
inductive Reachable (init : σ → Prop) (step : σ → σ → Prop) : σ → Prop
  | init {s : σ} : init s → Reachable init step s
  | step {s t : σ} : Reachable init step s → step s t → Reachable init step t

variable {init : σ → Prop} {step step' : σ → σ → Prop}

/-- What holds at the start and is kept by every step holds in every reachable state. -/
theorem Reachable.invariant {P : σ → Prop} (start : ∀ s, init s → P s)
    (keep : ∀ s t, P s → step s t → P t) {s : σ} (h : Reachable init step s) :
  P s
  := by
  induction h with
  | init hs => exact start _ hs
  | step _ hstep ih => exact keep _ _ ih hstep

/-- Fewer steps reach fewer states. -/
theorem Reachable.mono (sub : ∀ s t, step s t → step' s t) {s : σ} (h : Reachable init step s) :
  Reachable init step' s
  := by
  induction h with
  | init hs => exact .init hs
  | step _ hstep ih => exact .step ih (sub _ _ hstep)

end Reachable
