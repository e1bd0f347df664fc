/-
Runs of a component that is fed one sample after the other and answers each with a list
of actions.
-/

import Mathlib

namespace Hfirmware.LoggedRun

variable {State Sample Action : Type} {step : State → Sample → State × List Action}

def run (step : State → Sample → State × List Action) (start : State) (samples : List Sample) :
    State × List Action :=
  samples.foldl (fun sofar sample =>
    let (after, actions) := step sofar.1 sample
    (after, sofar.2 ++ actions)) (start, [])

theorem run_snoc (start : State) (samples : List Sample) (sample : Sample) :
    let after := run step start samples
    run step start (samples ++ [sample]) = ((step after.1 sample).1,
        after.2 ++ (step after.1 sample).2) := by
  unfold run
  rw [List.foldl_append]
  rfl

theorem run_invariant (holds : List Sample → State → List Action → Prop) {start : State}
    (initial : holds [] start []) (preserved : ∀ samples state log sample, holds samples state log →
      holds (samples ++ [sample]) (step state sample).1 (log ++ (step state sample).2))
    (samples : List Sample) :
    holds samples (run step start samples).1 (run step start samples).2 := by
  induction samples using List.reverseRecOn with
  | nil => exact initial
  | append_singleton _ _ ih =>
    rw [run_snoc]
    exact preserved _ _ _ _ ih

end Hfirmware.LoggedRun
