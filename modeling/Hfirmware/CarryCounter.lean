/-
A counter that counts up to a period and then starts again from one, with a carry.
-/

import Mathlib

namespace Hfirmware.CarryCounter

open List

def next (period limit count : Nat) : Nat := if count = period then 1 else (count + 1) % limit

def carries (period limit : Nat) : Nat → Nat → List Bool
  | _, 0 => []
  | count, ticks + 1 =>
    decide (count = period) :: carries period limit (next period limit count) ticks

def after (period limit : Nat) : Nat → Nat → Nat
  | count, 0 => count
  | count, ticks + 1 => after period limit (next period limit count) ticks

variable {period limit count ticks : Nat}

@[simp] theorem length_carries : (carries period limit count ticks).length = ticks := by
  induction ticks generalizing count with
  | zero => rfl
  | succ _ ih => exact congrArg Nat.succ ih

theorem carries_add (first second : Nat) : carries period limit count (first + second) =
    carries period limit count first ++
      carries period limit (after period limit count first) second := by
  induction first generalizing count with
  | zero =>
    rw [zero_add]
    rfl
  | succ _ ih =>
    rw [Nat.succ_add]
    exact congrArg (List.cons _) ih

theorem after_add (first second : Nat) : after period limit count (first + second) =
    after period limit (after period limit count first) second := by
  induction first generalizing count with
  | zero =>
    rw [zero_add]
    rfl
  | succ _ ih =>
    rw [Nat.succ_add]
    exact ih

theorem count_carries_add (first second : Nat) :
    (carries period limit count (first + second)).count true =
      (carries period limit count first).count true +
        (carries period limit (after period limit count first) second).count true := by
  rw [carries_add, count_append]

theorem count_carries_early (early : count ≠ period) :
    (carries period limit count (ticks + 1)).count true =
      (carries period limit (next period limit count) ticks).count true := by
  rw [carries, decide_eq_false early]
  exact count_cons_of_ne Bool.false_ne_true

theorem count_carries_end : (carries period limit period (ticks + 1)).count true =
    (carries period limit 1 ticks).count true + 1 := by
  rw [carries, decide_eq_true rfl, next, if_pos rfl]
  exact count_cons_self

section

variable (room : period < limit)
include room

theorem carries_of_below (below : count + ticks ≤ period) :
    (carries period limit count ticks).count true = 0 ∧
      after period limit count ticks = count + ticks := by
  induction ticks generalizing count with
  | zero => exact ⟨rfl, rfl⟩
  | succ ticks ih =>
    have early : count ≠ period := by omega
    have stepped : next period limit count = count + 1 := by
      rw [next, if_neg early, Nat.mod_eq_of_lt (by omega)]
    have later : count + 1 + ticks ≤ period := by omega
    rw [count_carries_early early, after, stepped]
    refine ⟨(ih later).1, (ih later).2.trans ?_⟩
    omega

theorem carries_period (low : 1 ≤ count) (high : count ≤ period) :
    (carries period limit count period).count true = 1 ∧
      after period limit count period = count := by
  -- up to the end of the period, the carry, and on to where the counter was
  have up : count + (period - count) ≤ period := by omega
  have on : 1 + (count - 1) ≤ period := by omega
  have split : period = period - count + (count - 1 + 1) := by omega
  have there : count + (period - count) = period := by omega
  have back : 1 + (count - 1) = count := by omega
  have first := carries_of_below room up
  have second := carries_of_below room on
  rw [there] at first
  rw [back] at second
  constructor
  · calc (carries period limit count period).count true
        = (carries period limit count (period - count + (count - 1 + 1))).count true := by
          rw [← split]
      _ = 0 + (carries period limit period (count - 1 + 1)).count true := by
          rw [count_carries_add, first.1, first.2]
      _ = 1 := by rw [count_carries_end, second.1]
  · calc after period limit count period
        = after period limit count (period - count + (count - 1 + 1)) := by rw [← split]
      _ = after period limit period (count - 1 + 1) := by rw [after_add, first.2]
      _ = after period limit 1 (count - 1) := by rw [after, next, if_pos rfl]
      _ = count := second.2

theorem carries_periods (low : 1 ≤ count) (high : count ≤ period) (times : Nat) :
    (carries period limit count (times * period)).count true = times ∧
      after period limit count (times * period) = count := by
  induction times with
  | zero =>
    rw [zero_mul]
    exact ⟨rfl, rfl⟩
  | succ times ih =>
    obtain ⟨one, same⟩ := carries_period room low high
    rw [Nat.succ_mul, count_carries_add, after_add, ih.1, ih.2]
    exact ⟨congrArg (times + ·) one, same⟩

theorem after_within (low : 1 ≤ count) (high : count ≤ period) (ticks : Nat) :
    1 ≤ after period limit count ticks ∧ after period limit count ticks ≤ period := by
  induction ticks generalizing count with
  | zero => exact ⟨low, high⟩
  | succ ticks ih =>
    rw [after]
    by_cases last : count = period
    · rw [next, if_pos last]
      exact ih (le_refl 1) (le_trans low high)
    · rw [next, if_neg last, Nat.mod_eq_of_lt (by omega)]
      exact ih (by omega) (by omega)

theorem count_carries_pred (low : 2 ≤ count) (high : count ≤ period) {times ticks : Nat}
    (all : ticks + 1 = times * period) : (carries period limit count ticks).count true = times := by
  obtain ⟨every, same⟩ := carries_periods room (le_of_lt low) high times
  rw [← all] at every same
  rw [count_carries_add] at every
  rw [after_add] at same
  -- a carry in the last tick would leave the counter at one
  have last : after period limit count ticks ≠ period := by
    intro end_
    rw [end_, after, next, if_pos rfl] at same
    change 1 = count at same
    omega
  rwa [count_carries_early last] at every

/-! ### From any counter -/

theorem count_carries_le_one (short : ticks ≤ period) :
    (carries period limit count ticks).count true ≤ 1 := by
  induction ticks generalizing count with
  | zero => exact Nat.zero_le 1
  | succ ticks ih =>
    by_cases last : count = period
    · have below : 1 + ticks ≤ period := by omega
      apply le_of_eq
      rw [last, count_carries_end, (carries_of_below room below).1]
    · rw [count_carries_early last]
      exact ih (by omega)

theorem count_carries_le (times : Nat) :
    (carries period limit count (times * period)).count true ≤ times := by
  induction times with
  | zero =>
    rw [zero_mul]
    exact le_refl 0
  | succ _ ih =>
    rw [Nat.succ_mul, count_carries_add]
    exact Nat.add_le_add ih (count_carries_le_one room (le_refl period))

theorem count_carries_outside (some : 0 < period) (outside : count = 0 ∨ period < count)
    (field : count < limit) (short : ticks ≤ period) :
    (carries period limit count ticks).count true = 0 := by
  induction ticks generalizing count with
  | zero => rfl
  | succ ticks ih =>
    have early : count ≠ period := by omega
    rw [count_carries_early early, next, if_neg early]
    rcases outside with zero | past
    · have below : 1 + ticks ≤ period := by omega
      rw [zero, Nat.mod_eq_of_lt (by omega)]
      exact (carries_of_below room below).1
    · by_cases full : count + 1 = limit
      · rw [full, Nat.mod_self]
        exact ih (.inl rfl) (by omega) (by omega)
      · rw [Nat.mod_eq_of_lt (by omega)]
        exact ih (.inr (by omega)) (by omega) (by omega)

theorem count_carries_lt (some : 0 < period) (early : ¬(2 ≤ count ∧ count ≤ period))
    (field : count < limit) {times ticks : Nat} (all : ticks + 1 = times * period) :
    (carries period limit count ticks).count true < times := by
  have none : (carries period limit count (period - 1)).count true = 0 := by
    by_cases one : count = 1
    · have below : 1 + (period - 1) ≤ period := by omega
      rw [one]
      exact (carries_of_below room below).1
    · exact count_carries_outside room some (by omega) field (Nat.sub_le _ _)
  cases times with
  | zero =>
    rw [zero_mul] at all
    cases all
  | succ times =>
    rw [Nat.succ_mul] at all
    have split : ticks = period - 1 + times * period := by omega
    rw [split, count_carries_add, none, zero_add]
    exact Nat.lt_succ_of_le (count_carries_le room times)

end

end Hfirmware.CarryCounter
