/-
An event that repeats by a clock that wraps.
-/

import Mathlib

namespace Hfirmware.WrappingRepeat

open Nat

/-- A clock of `size` values that advances by `tick`, looked at from tick `first` on; the
gap is first counted from `reference`. -/
structure Repeater where
  (size tick first reference gap : Nat)
  moves : 0 < tick
  slow : tick ≤ size

namespace Repeater

variable (repeater : Repeater)

def time (n : Nat) : Nat := (repeater.first + n) * repeater.tick % repeater.size

def last : Nat → Nat
  | 0 => repeater.reference
  | n + 1 => if last n + repeater.gap < repeater.time n then repeater.time n else last n

def Fires (n : Nat) : Prop := repeater.last n + repeater.gap < repeater.time n

def period : Nat := repeater.gap / repeater.tick + 1

/-- Every event up to look `bound` is followed by the next one a period later. -/
def OnTime (bound : Nat) : Prop :=
  ∀ n, repeater.Fires n → n + repeater.period ≤ bound → repeater.Fires (n + repeater.period)

structure First (n : Nat) : Prop where
  passed : repeater.reference + repeater.gap < repeater.time n
  before : ∀ earlier < n, ¬repeater.reference + repeater.gap < repeater.time earlier

def periodsLeft (n : Nat) : Nat :=
  (repeater.size - 1 - repeater.time n) / (repeater.period * repeater.tick)

end Repeater

section

variable {repeater : Repeater} {n count : Nat}

theorem time_add : repeater.time (n + count) =
    (repeater.time n + count * repeater.tick) % repeater.size := by
  unfold Repeater.time
  rw [← add_assoc, add_mul, mod_add_mod]

theorem time_add_of_lt (early : repeater.time n + count * repeater.tick < repeater.size) :
    repeater.time (n + count) = repeater.time n + count * repeater.tick := by
  rw [time_add, mod_eq_of_lt early]

theorem time_add_of_le (late : repeater.size ≤ repeater.time n + count * repeater.tick) :
    repeater.time (n + count) + repeater.size ≤ repeater.time n + count * repeater.tick := by
  have whole := mod_add_div (repeater.time n + count * repeater.tick) repeater.size
  have lap : 1 ≤ (repeater.time n + count * repeater.tick) / repeater.size :=
    (Nat.le_div_iff_mul_le (lt_of_lt_of_le repeater.moves repeater.slow)).mpr (by omega)
  have size := Nat.mul_le_mul_left repeater.size lap
  rw [time_add]
  omega

theorem mul_tick_le_gap (short : count < repeater.period) : count * repeater.tick ≤ repeater.gap :=
  (Nat.le_div_iff_mul_le repeater.moves).mp (le_of_lt_succ short)

theorem period_le : repeater.period * repeater.tick ≤ repeater.gap + repeater.size := by
  have whole := @mul_tick_le_gap repeater _ (lt_succ_self _)
  have slow := repeater.slow
  unfold Repeater.period
  rw [succ_mul]
  omega

theorem not_passed (short : count < repeater.period) :
    ¬repeater.time n + repeater.gap < repeater.time (n + count) := by
  have ticks := mul_tick_le_gap short
  by_cases early : repeater.time n + count * repeater.tick < repeater.size
  · rw [time_add_of_lt early]
    omega
  · have wrapped := time_add_of_le (not_lt.mp early)
    omega

theorem last_of_fires (fires : repeater.Fires n) (short : count < repeater.period) :
    repeater.last (n + count + 1) = repeater.time n := by
  induction count with
  | zero => exact if_pos fires
  | succ _ ih =>
    have before := ih (lt_of_succ_lt short)
    rw [← add_assoc, Repeater.last, before, if_neg]
    exact not_passed short

theorem not_fires_between (fires : repeater.Fires n) (some : 0 < count)
    (short : count < repeater.period) : ¬repeater.Fires (n + count) := by
  obtain ⟨_, rfl⟩ := exists_eq_succ_of_ne_zero (ne_of_gt some)
  unfold Repeater.Fires
  rw [add_succ, last_of_fires fires (lt_of_succ_lt short)]
  exact not_passed short

theorem fires_period_iff (fires : repeater.Fires n) : repeater.Fires (n + repeater.period) ↔
    repeater.time n + repeater.period * repeater.tick < repeater.size := by
  have gap : repeater.gap < repeater.period * repeater.tick :=
    lt_mul_of_div_lt (lt_succ_self _) repeater.moves
  have before : repeater.last (n + repeater.period) = repeater.time n :=
    last_of_fires fires (lt_succ_self (repeater.gap / repeater.tick))
  unfold Repeater.Fires
  by_cases early : repeater.time n + repeater.period * repeater.tick < repeater.size
  · rw [time_add_of_lt early]
    exact iff_of_true (by omega) early
  · have wrapped := time_add_of_le (not_lt.mp early)
    have long := @period_le repeater
    exact iff_of_false (by omega) early

theorem last_of_before (before : ∀ earlier < n,
    ¬repeater.reference + repeater.gap < repeater.time earlier) :
    repeater.last n = repeater.reference := by
  induction n with
  | zero => rfl
  | succ n ih =>
    rw [Repeater.last, ih fun earlier below => before earlier (lt_succ_of_lt below)]
    exact if_neg (before n (lt_succ_self n))

theorem Repeater.First.fires (first : repeater.First n) : repeater.Fires n := by
  unfold Repeater.Fires
  rw [last_of_before first.before]
  exact first.passed

theorem exists_first (fires : repeater.Fires n) : ∃ first ≤ n, repeater.First first := by
  have passed : ∃ earlier, repeater.reference + repeater.gap < repeater.time earlier := by
    by_contra never
    unfold Repeater.Fires at fires
    rw [last_of_before fun earlier _ passed => never ⟨earlier, passed⟩] at fires
    exact never ⟨n, fires⟩
  refine ⟨Nat.find passed, ?_, Nat.find_spec passed, fun earlier => Nat.find_min passed⟩
  by_contra late
  unfold Repeater.Fires at fires
  rw [last_of_before fun earlier below =>
    Nat.find_min passed (lt_trans below (not_le.mp late))] at fires
  exact Nat.find_min passed (not_le.mp late) fires

theorem fires_train (first : repeater.First n) (fits : count ≤ repeater.periodsLeft n) :
    repeater.Fires (n + repeater.period * count) ∧ repeater.time (n + repeater.period * count) =
        repeater.time n + count * (repeater.period * repeater.tick) := by
  have positive : 0 < repeater.period * repeater.tick :=
    mul_pos (succ_pos _) repeater.moves
  induction count with
  | zero =>
    rw [mul_zero, zero_mul, add_zero]
    exact ⟨first.fires, rfl⟩
  | succ count ih =>
    obtain ⟨fires, time⟩ := ih (le_of_succ_le fits)
    have room := (Nat.le_div_iff_mul_le positive).mp fits
    rw [succ_mul] at room
    have early : repeater.time (n + repeater.period * count) +
        repeater.period * repeater.tick < repeater.size := by
      omega
    rw [mul_succ, ← add_assoc]
    refine ⟨(fires_period_iff fires).mpr early, ?_⟩
    rw [time_add_of_lt early, time, succ_mul, add_assoc]

/-- All events are on time exactly up to the one that is due after the clock has wrapped. -/
theorem onTime_iff (repeater : Repeater) (bound : Nat) :
    repeater.OnTime bound ↔ ∀ first, repeater.First first →
      bound < first + repeater.period * (repeater.periodsLeft first + 1) := by
  have positive : 0 < repeater.period * repeater.tick :=
    mul_pos (succ_pos _) repeater.moves
  have some : 0 < repeater.period := succ_pos _
  constructor
  · intro onTime first isFirst
    by_contra reached
    obtain ⟨fires, _⟩ := fires_train isFirst (.refl)
    rw [mul_succ, ← add_assoc] at reached
    have early := (fires_period_iff fires).mp (onTime _ fires (not_lt.mp reached))
    have full := lt_mul_of_div_lt (lt_succ_self (repeater.periodsLeft first)) positive
    rw [succ_mul] at full
    omega
  · intro bounded n fires _
    obtain ⟨first, _, isFirst⟩ := exists_first fires
    have limit := bounded first isFirst
    -- The events are those of the train: between two of them there is none.
    have split := div_add_mod (n - first) repeater.period
    have rest := mod_lt (n - first) some
    have place : n = first + repeater.period * ((n - first) / repeater.period) +
        (n - first) % repeater.period := by omega
    have fits : (n - first) / repeater.period < repeater.periodsLeft first := by
      apply Nat.div_lt_of_lt_mul
      rw [mul_succ] at limit
      omega
    have train := (fires_train isFirst (le_of_lt fits)).1
    have aligned : (n - first) % repeater.period = 0 := by
      by_contra between
      rw [place] at fires
      exact not_fires_between train (Nat.pos_of_ne_zero between) rest fires
    have next := (fires_train isFirst fits).1
    rwa [place, aligned, add_zero, add_assoc, ← mul_succ]

end

end Hfirmware.WrappingRepeat
