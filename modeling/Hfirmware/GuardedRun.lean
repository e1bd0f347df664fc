/-
Runs of a labelled step function, with a guard that each action has to meet in the state
it is taken in.
-/

import Mathlib

namespace Hfirmware.GuardedRun

open List Option

variable {State Action : Type}

/-- Every action of the run meets `good` in the state it is taken in. -/
def Along (step : State → Action → State) (good : State → Action → Prop) :
    State → List Action → Prop
  | _, [] => True
  | state, action :: rest => good state action ∧ Along step good (step state action) rest

@[simp] theorem along_cons (step : State → Action → State) (good : State → Action → Prop)
    (state : State) (action : Action) (rest : List Action) :
    Along step good state (action :: rest) ↔
      good state action ∧ Along step good (step state action) rest := Iff.rfl

variable {state : State} {good : State → Action → Prop} {step : State → Action → State}

theorem along_append {first second : List Action} : Along step good state (first ++ second) ↔
      Along step good state first ∧ Along step good (first.foldl step state) second := by
  induction first generalizing state with
  | nil => exact ⟨fun later => ⟨trivial, later⟩, fun both => both.2⟩
  | cons _ _ ih =>
    rw [cons_append, along_cons, along_cons, ih, and_assoc]
    rfl

instance decidableAlong (step : State → Action → State) (good : State → Action → Prop)
    [∀ state action, Decidable (good state action)] (state : State) (actions : List Action) :
    Decidable (Along step good state actions) :=
  match actions with
  | [] => isTrue trivial
  | action :: rest =>
    have := decidableAlong step good (step state action) rest
    inferInstanceAs (Decidable (_ ∧ _))

variable {actions : List Action}

/-- The invariant rule: an invariant that every guarded step keeps holds at the end of a guarded
run. -/
theorem invariant_of_along {guard : State → Action → Prop} {inv : State → Prop}
    (preserved : ∀ state action, inv state → guard state action → inv (step state action))
    {state : State} (initial : inv state) (guarded : Along step guard state actions) :
    inv (actions.foldl step state) := by
  induction actions generalizing state with
  | nil => exact initial
  | cons action _ ih =>
    obtain ⟨here, later⟩ := guarded
    exact ih (preserved state action initial here) later

/-- Under an invariant that fitting steps keep, the good steps are those that fit; so the same
runs are good and fit. -/
theorem along_iff {given fits : State → Action → Prop} {inv : State → Prop}
    (agree : ∀ state action, inv state → given state action →
      (good state action ↔ fits state action))
    (kept : ∀ state action, inv state → given state action → fits state action →
      inv (step state action)) (initial : inv state)
    (guarded : Along step given state actions) :
    Along step good state actions ↔ Along step fits state actions := by
  induction actions generalizing state with
  | nil => exact Iff.rfl
  | cons action _ ih =>
    obtain ⟨here, later⟩ := guarded
    rw [along_cons, along_cons, agree state action initial here]
    exact and_congr_right fun first => ih (kept state action initial here first) later

variable {inv : State → Prop}

/-- What the invariant gives at one guarded step holds at every step of a
guarded run. -/
theorem along_of_invariant {guard : State → Action → Prop}
    (preserved : ∀ state action, inv state → guard state action → inv (step state action))
    (observed : ∀ state action, inv state → guard state action → good state action)
    (initial : inv state) (guarded : Along step guard state actions) :
    Along step good state actions := by
  induction actions generalizing state with
  | nil => trivial
  | cons action _ ih =>
    obtain ⟨here, later⟩ := guarded
    exact ⟨observed state action initial here, ih (preserved state action initial here) later⟩

/-- The end of a run in which every action is enabled when it is taken. -/
def runEnabled (step : State → Action → Option State) : State → List Action → Option State
  | state, [] => some state
  | state, action :: rest => (step state action).bind fun next => runEnabled step next rest

theorem runEnabled_invariant {step : State → Action → Option State}
    (preserved : ∀ state action next, inv state → step state action = some next → inv next)
    {final : State} (initial : inv state)
    (run : runEnabled step state actions = some final) : inv final := by
  induction actions generalizing state with
  | nil =>
    obtain rfl := some.inj run
    exact initial
  | cons action _ ih =>
    obtain ⟨next, taken, later⟩ := bind_eq_some_iff.mp run
    exact ih (preserved state action next initial taken) later

/-- An invariant of the enabled steps holds at the end, and if a measure goes
down with each of them, it bounds the length of the run. -/
theorem runEnabled_spec {step : State → Action → Option State} {measure : State → Nat}
    (preserved : ∀ state action next, inv state → step state action = some next →
      inv next ∧ measure next < measure state) {final : State}
    (initial : inv state) (run : runEnabled step state actions = some final) :
    inv final ∧ actions.length + measure final ≤ measure state := by
  induction actions generalizing state with
  | nil =>
    obtain rfl := some.inj run
    exact ⟨initial, le_of_eq (zero_add _)⟩
  | cons action _ ih =>
    obtain ⟨next, taken, later⟩ := bind_eq_some_iff.mp run
    obtain ⟨holds, _⟩ := preserved state action next initial taken
    obtain ⟨atEnd, _⟩ := ih holds later
    refine ⟨atEnd, ?_⟩
    rw [length_cons]
    omega

theorem runEnabled_simulates {Other : Type} {step : State → Action → Option State}
    {other : Other → Action → Option Other} {related : State → Other → Prop}
    (matched : ∀ state partner action next, related state partner → step state action = some next →
        ∃ answer, other partner action = some answer ∧ related next answer) {final : State}
    {partner : Other} {actions : List Action} (initial : related state partner)
    (run : runEnabled step state actions = some final) :
    ∃ answer, runEnabled other partner actions = some answer ∧ related final answer := by
  induction actions generalizing state partner with
  | nil =>
    obtain rfl := some.inj run
    exact ⟨partner, rfl, initial⟩
  | cons action _ ih =>
    obtain ⟨next, taken, later⟩ := bind_eq_some_iff.mp run
    obtain ⟨answer, answered, kept⟩ := matched state partner action next initial taken
    obtain ⟨last, done, atEnd⟩ := ih kept later
    exact ⟨last, bind_eq_some_iff.mpr ⟨answer, answered, done⟩, atEnd⟩

theorem runEnabled_to_end {step : State → Action → Option State} {measure : State → Nat}
    (preserved : ∀ state action next, inv state → step state action = some next →
      inv next ∧ measure next < measure state) (initial : inv state) :
    ∃ actions final, runEnabled step state actions = some final ∧
      ∀ action, step final action = none := by
  induction left : measure state using Nat.strongRecOn generalizing state with
  | ind left ih =>
    by_cases stuck : ∀ action, step state action = none
    · exact ⟨[], state, rfl, stuck⟩
    · obtain ⟨action, enabled⟩ := not_forall.mp stuck
      obtain ⟨next, taken⟩ := ne_none_iff_exists'.mp enabled
      obtain ⟨holds, less⟩ := preserved state action next initial taken
      obtain ⟨rest, final, run, ends⟩ := ih (measure next) (left ▸ less) holds rfl
      exact ⟨action :: rest, final, bind_eq_some_iff.mpr ⟨next, taken, run⟩, ends⟩

end Hfirmware.GuardedRun
