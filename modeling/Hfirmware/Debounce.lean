/-
A debouncer for a two-valued line. A new value is held and counted; when it has been
seen often enough without a break it becomes the value of the line, and the debouncer
fires.
-/

import Mathlib

namespace Hfirmware.Debounce

structure Debouncer where
  (hold last : Bool)
  cnt : Nat
deriving DecidableEq

def Debouncer.init : Debouncer := ⟨false, false, 0⟩

/-- One sample, with an 8-bit count: the debouncer after it, and whether it fires. -/
def Debouncer.sample (limit : Nat) (line : Debouncer) (value : Bool) : Debouncer × Bool :=
  if value = line.hold ∧ value = line.last then (line, false)
  else if value = line.hold then
    let cnt := (line.cnt + 1) % 2 ^ 8
    if limit ≤ cnt then ({ line with cnt, last := value }, true)
    else ({ line with cnt }, false)
  else ({ line with cnt := 0, hold := value }, false)

def RunOf (value : Bool) (count : Nat) (samples : List Bool) : Prop :=
  ∃ earlier, samples = earlier ++ List.replicate count value

theorem RunOf.one (value : Bool) (samples : List Bool) : RunOf value 1 (samples ++ [value]) :=
  ⟨samples, rfl⟩

theorem RunOf.snoc {value : Bool} {count : Nat} {samples : List Bool}
    (run : RunOf value count samples) : RunOf value (count + 1) (samples ++ [value]) := by
  obtain ⟨earlier, rfl⟩ := run
  refine ⟨earlier, ?_⟩
  rw [List.append_assoc, List.replicate_succ']

/-- A value that is held and not yet taken has been counted from its first sample on. -/
def Debouncer.Settling (limit : Nat) (line : Debouncer) (samples : List Bool) : Prop :=
  line.hold ≠ line.last → line.cnt < limit ∧ RunOf line.hold (line.cnt + 1) samples

theorem Debouncer.settling_init (limit : Nat) (samples : List Bool) :
    Debouncer.init.Settling limit samples := fun different => absurd rfl different

section

variable {limit : Nat} {line : Debouncer} {samples : List Bool} {value : Bool}

inductive Sampled (limit : Nat) (line : Debouncer) (samples : List Bool) (value : Bool) :
    Debouncer × Bool → Prop where
  | steady (held : line.hold = line.last) : Sampled limit line samples value (line, false)
  | counted (more : line.cnt + 1 < limit) (run : RunOf value (line.cnt + 2) (samples ++ [value]))
      (held : line.hold = value) :
      Sampled limit line samples value ({ line with cnt := line.cnt + 1 }, false)
  | fired (change : value ≠ line.last) (run : RunOf value (limit + 1) (samples ++ [value]))
      (held : line.hold = value) (cnt : Nat) :
      Sampled limit line samples value ({ line with cnt, last := value }, true)
  | begun : Sampled limit line samples value ({ line with cnt := 0, hold := value }, false)

section

variable (settling : line.Settling limit samples)
include settling

theorem Debouncer.Settling.sampled (small : limit < 2 ^ 8) :
    Sampled limit line samples value (line.sample limit value) := by
  unfold Debouncer.sample
  split
  · next steady =>
    exact .steady (steady.1.symm.trans steady.2)
  · next steady =>
    by_cases held : value = line.hold
    · have change : value ≠ line.last := fun same => steady ⟨held, same⟩
      obtain ⟨_, run⟩ := settling (held ▸ change)
      have counted : (line.cnt + 1) % 2 ^ 8 = line.cnt + 1 := Nat.mod_eq_of_lt (by omega)
      have longer : RunOf value (line.cnt + 2) (samples ++ [value]) := by
        rw [held]
        exact run.snoc
      rw [if_pos held, counted]
      by_cases enough : limit ≤ line.cnt + 1
      · rw [if_pos enough]
        have same : limit = line.cnt + 1 := by omega
        exact .fired change (same ▸ longer) held.symm _
      · rw [if_neg enough]
        exact .counted (by omega) longer held.symm
    · rw [if_neg held]
      exact .begun

theorem Debouncer.Settling.next (positive : 0 < limit) (small : limit < 2 ^ 8) :
    (line.sample limit value).1.Settling limit (samples ++ [value]) := by
  have sampled : Sampled limit line samples value (line.sample limit value) :=
    settling.sampled small
  generalize line.sample limit value = after at sampled ⊢
  cases sampled with
  | steady held | fired _ _ held => exact fun different => absurd held different
  | counted more run held => exact fun _ => ⟨more, held ▸ run⟩
  | begun => exact fun _ => ⟨positive, .one value samples⟩

theorem Debouncer.Settling.fired (small : limit < 2 ^ 8) (fires : (line.sample limit value).2) :
    value ≠ line.last ∧ (line.sample limit value).1.last = value ∧
      RunOf value (limit + 1) (samples ++ [value]) := by
  have sampled : Sampled limit line samples value (line.sample limit value) :=
    settling.sampled small
  generalize line.sample limit value = after at sampled fires ⊢
  cases sampled with
  | steady => cases fires
  | counted => cases fires
  | fired change run => exact ⟨change, rfl, run⟩
  | begun => cases fires

theorem Debouncer.Settling.quiet (small : limit < 2 ^ 8)
    (quiet : (line.sample limit value).2 = false) :
    (line.sample limit value).1.last = line.last := by
  have sampled : Sampled limit line samples value (line.sample limit value) :=
    settling.sampled small
  generalize line.sample limit value = after at sampled quiet ⊢
  cases sampled with
  | steady => rfl
  | counted => rfl
  | fired => cases quiet
  | begun => rfl

end

end

end Hfirmware.Debounce
