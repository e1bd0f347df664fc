/-
The search for the clock timing with which an SD card answers.
-/

import Hfirmware.ResumedSearch

namespace Hfirmware.Drvhal

open List
open ResumedSearch

structure SdDevClk where
  mclk_phase : Nat
  (smp_half_cycles drv_half_cycles : Int)
deriving DecidableEq

variable {timing : SdDevClk}

def SdDevClk.reset : SdDevClk := ⟨0, -1, -1⟩

abbrev Training := Outcome SdDevClk SdDevClk

def SdDevClk.behind (timing : SdDevClk) : SdDevClk :=
  { timing with drv_half_cycles := timing.drv_half_cycles + 1 }

def SdDevClk.nextSmp (timing : SdDevClk) : SdDevClk :=
  { timing with
    drv_half_cycles := -1
    smp_half_cycles := timing.smp_half_cycles + 1 }

def SdDevClk.nextPhase (timing : SdDevClk) : SdDevClk :=
  { timing with smp_half_cycles := -1, mclk_phase := timing.mclk_phase + 1 }

def tryTiming (sdcConnect : SdDevClk → Bool) (timing : SdDevClk) : Training :=
  if sdcConnect timing then ⟨timing.behind, [timing], true⟩ else ⟨timing, [timing], false⟩

def drvLoop (sdcConnect : SdDevClk → Bool) (timing : SdDevClk) : Training :=
  loop (tryTiming sdcConnect) SdDevClk.behind (8 - timing.drv_half_cycles).toNat timing

def smpLoop (sdcConnect : SdDevClk → Bool) (timing : SdDevClk) : Training :=
  loop (drvLoop sdcConnect) SdDevClk.nextSmp (8 - timing.smp_half_cycles).toNat timing

def hsSdTimTaining (sdcConnect : SdDevClk → Bool) (timing : SdDevClk) : Training :=
  loop (smpLoop sdcConnect) SdDevClk.nextPhase (2 - timing.mclk_phase) timing

def SdDevClk.InGrid (timing : SdDevClk) : Prop :=
  timing.mclk_phase ≤ 1 ∧ (-1 ≤ timing.smp_half_cycles ∧ timing.smp_half_cycles < 8) ∧
    -1 ≤ timing.drv_half_cycles ∧ timing.drv_half_cycles < 8

instance (timing : SdDevClk) : Decidable timing.InGrid := inferInstanceAs (Decidable (_ ∧ _))

def noAnswer (_ : SdDevClk) : Bool := false

def SdDevClk.ahead (timing : SdDevClk) : List SdDevClk := (hsSdTimTaining noAnswer timing).tried

def SdDevClk.final (timing : SdDevClk) : SdDevClk := (hsSdTimTaining noAnswer timing).position

def grid : List SdDevClk :=
  (List.range 2).flatMap fun phase => (List.range 9).flatMap fun (smp : Nat) =>
    (List.range 9).map fun (drv : Nat) => ⟨phase, smp - 1, drv - 1⟩

open SdDevClk

theorem mem_grid (timing : SdDevClk) : timing ∈ grid ↔ timing.InGrid := by
  unfold grid
  simp only [mem_flatMap, List.mem_map, mem_range]
  constructor
  · rintro ⟨_, phaseBound, _, smpBound, _, drvBound, rfl⟩
    unfold SdDevClk.InGrid
    dsimp only
    omega
  · rintro ⟨phaseBound, smpBound, drvBound⟩
    refine ⟨timing.mclk_phase, by omega, (timing.smp_half_cycles + 1).toNat, by omega,
      (timing.drv_half_cycles + 1).toNat, by omega, ?_⟩
    rw [Int.toNat_of_nonneg (by omega), Int.toNat_of_nonneg (by omega), Int.add_sub_cancel,
      Int.add_sub_cancel]

def SdDevClk.place (timing : SdDevClk) : Nat :=
  (timing.mclk_phase * 9 + (timing.smp_half_cycles + 1).toNat) * 9 +
    (timing.drv_half_cycles + 1).toNat

theorem grid_nodup : grid.Nodup := by
  have places : grid.map place = List.range 162 := by decide +kernel
  apply List.Nodup.of_map place
  rw [places]
  exact nodup_range

theorem ahead_reset : reset.ahead = grid := by decide +kernel

theorem tryTiming_eq (sdcConnect : SdDevClk → Bool) (timing : SdDevClk) :
    tryTiming sdcConnect timing = search sdcConnect behind timing [timing] := by
  unfold tryTiming
  cases answer : sdcConnect timing with
  | true => rw [search_cons_accepted answer, if_pos rfl]
  | false =>
    rw [search_cons_refused answer, if_neg nofun]
    rfl

theorem drvLoop_misses (timing : SdDevClk) : (drvLoop noAnswer timing).found = false :=
  loop_misses (fun _ => rfl) _ _

theorem smpLoop_misses (timing : SdDevClk) : (smpLoop noAnswer timing).found = false :=
  loop_misses drvLoop_misses _ _

theorem hsSdTimTaining_eq (sdcConnect : SdDevClk → Bool) (timing : SdDevClk) :
    hsSdTimTaining sdcConnect timing = search sdcConnect behind timing.final timing.ahead := by
  have drv : ∀ timing, drvLoop sdcConnect timing =
      search sdcConnect behind (drvLoop noAnswer timing).position (drvLoop noAnswer timing).tried :=
    fun _ => loop_eq_search (tryTiming_eq sdcConnect) (fun _ => rfl) _ _
  have smp : ∀ timing, smpLoop sdcConnect timing =
      search sdcConnect behind (smpLoop noAnswer timing).position (smpLoop noAnswer timing).tried :=
    fun _ => loop_eq_search drv drvLoop_misses _ _
  exact loop_eq_search smp smpLoop_misses _ _

section

theorem drvLoop_behind (more : timing.drv_half_cycles < 8) :
    drvLoop noAnswer timing = (drvLoop noAnswer timing.behind).after [timing] := by
  have rounds : (8 - timing.drv_half_cycles).toNat =
      (8 - (timing.drv_half_cycles + 1)).toNat + 1 := by omega
  unfold drvLoop
  rw [rounds, loop]
  rfl

theorem drvLoop_over (past : 8 ≤ timing.drv_half_cycles) :
    drvLoop noAnswer timing = ⟨timing, [], false⟩ := by
  have rounds : (8 - timing.drv_half_cycles).toNat = 0 := by omega
  unfold drvLoop
  rw [rounds, loop]

theorem drvLoop_keeps (timing : SdDevClk) :
    (drvLoop noAnswer timing).position.nextSmp = timing.nextSmp := by
  apply loop_keeps nextSmp
  · exact fun _ => rfl
  · exact fun _ => rfl

theorem smpLoop_keeps (timing : SdDevClk) :
    (smpLoop noAnswer timing).position.mclk_phase = timing.mclk_phase := by
  apply loop_keeps SdDevClk.mclk_phase
  · exact fun timing => (mk.inj (drvLoop_keeps timing)).1
  · exact fun _ => rfl

theorem smpLoop_next (more : timing.smp_half_cycles < 8) : smpLoop noAnswer timing =
    (smpLoop noAnswer timing.nextSmp).after (drvLoop noAnswer timing).tried := by
  have rounds : (8 - timing.smp_half_cycles).toNat =
      (8 - (timing.smp_half_cycles + 1)).toNat + 1 := by omega
  unfold smpLoop
  rw [rounds, loop, if_neg (Bool.eq_false_iff.mp (drvLoop_misses timing))]
  change (loop _ _ _ (drvLoop noAnswer timing).position.nextSmp).after _ = _
  rw [drvLoop_keeps]
  rfl

theorem smpLoop_over (past : 8 ≤ timing.smp_half_cycles) :
    smpLoop noAnswer timing = ⟨timing, [], false⟩ := by
  have rounds : (8 - timing.smp_half_cycles).toNat = 0 := by omega
  unfold smpLoop
  rw [rounds, loop]

theorem hsSdTimTaining_next (more : timing.mclk_phase < 2) : hsSdTimTaining noAnswer timing =
    (hsSdTimTaining noAnswer (smpLoop noAnswer timing).position.nextPhase).after
      (smpLoop noAnswer timing).tried := by
  have rounds : 2 - timing.mclk_phase =
      2 - (smpLoop noAnswer timing).position.nextPhase.mclk_phase + 1 := by
    change _ = 2 - ((smpLoop noAnswer timing).position.mclk_phase + 1) + 1
    rw [smpLoop_keeps]
    omega
  unfold hsSdTimTaining
  rw [rounds, loop, if_neg (Bool.eq_false_iff.mp (smpLoop_misses timing))]

theorem ahead_over (past : 2 ≤ timing.mclk_phase) : timing.ahead = [] := by
  unfold ahead hsSdTimTaining
  rw [Nat.sub_eq_zero_of_le past, loop]

section

variable (phase : timing.mclk_phase < 2)
include phase

theorem ahead_inGrid (smp : timing.smp_half_cycles < 8)
    (drv : timing.drv_half_cycles < 8) : timing.ahead = timing :: timing.behind.ahead := by
  have middle : smpLoop noAnswer timing = (smpLoop noAnswer timing.behind).after [timing] := by
    rw [smpLoop_next smp, drvLoop_behind drv, @smpLoop_next timing.behind smp]
    unfold Outcome.after
    rw [append_assoc]
    rfl
  unfold ahead
  rw [hsSdTimTaining_next phase, @hsSdTimTaining_next timing.behind phase, middle]
  rfl

theorem ahead_nextSmp (smp : timing.smp_half_cycles < 8)
    (past : 8 ≤ timing.drv_half_cycles) : timing.ahead = timing.nextSmp.ahead := by
  have middle : smpLoop noAnswer timing = smpLoop noAnswer timing.nextSmp := by
    rw [smpLoop_next smp, drvLoop_over past]
    rfl
  unfold ahead
  rw [hsSdTimTaining_next phase, @hsSdTimTaining_next timing.nextSmp phase, middle]

theorem ahead_nextPhase (past : 8 ≤ timing.smp_half_cycles) :
    timing.ahead = timing.nextPhase.ahead := by
  unfold ahead
  rw [hsSdTimTaining_next phase, smpLoop_over past]
  rfl

end

/-- Counters that a call may start from: the outer loop resets the middle one, which in turn
resets the inner one, but not both at once. -/
def SdDevClk.Resumable (timing : SdDevClk) : Prop :=
  timing.mclk_phase < 2 → timing.smp_half_cycles < 8

theorem SdDevClk.Resumable.first {first : SdDevClk} {later : List SdDevClk}
    (resumable : timing.Resumable) (listed : timing.ahead = first :: later) :
    first.Resumable ∧ later = first.behind.ahead := by
  have stands : ∀ {timing : SdDevClk}, timing.mclk_phase < 2 → timing.smp_half_cycles < 8 →
      timing.drv_half_cycles < 8 → timing.ahead = first :: later →
      first.Resumable ∧ later = first.behind.ahead := by
    intro timing phase smp drv listed
    rw [ahead_inGrid phase smp drv] at listed
    obtain ⟨rfl, rfl⟩ := List.cons.inj listed
    exact ⟨fun _ => smp, rfl⟩
  by_cases phase : timing.mclk_phase < 2
  · have smp := resumable phase
    by_cases drv : timing.drv_half_cycles < 8
    · exact stands phase smp drv listed
    · rw [ahead_nextSmp phase smp (by omega)] at listed
      have same : timing.nextSmp.mclk_phase < 2 := phase
      by_cases more : timing.nextSmp.smp_half_cycles < 8
      · exact stands same more (by decide : (-1 : Int) < 8) listed
      · rw [ahead_nextPhase same (by omega)] at listed
        by_cases last : timing.nextSmp.nextPhase.mclk_phase < 2
        · exact stands last (by decide : (-1 : Int) < 8) (by decide : (-1 : Int) < 8) listed
        · rw [ahead_over (by omega)] at listed
          cases listed
  · rw [ahead_over (by omega)] at listed
    cases listed

theorem final_over (timing : SdDevClk) : 2 ≤ timing.final.mclk_phase := by
  generalize rounds : 2 - timing.mclk_phase = count
  induction count generalizing timing with
  | zero =>
    unfold final hsSdTimTaining
    rw [rounds, loop]
    exact Nat.le_of_sub_eq_zero rounds
  | succ count ih =>
    have more : timing.mclk_phase < 2 := by omega
    have next : timing.final = (smpLoop noAnswer timing).position.nextPhase.final := by
      unfold final
      rw [hsSdTimTaining_next more]
      rfl
    rw [next]
    apply ih
    change 2 - ((smpLoop noAnswer timing).position.mclk_phase + 1) = count
    rw [smpLoop_keeps]
    omega

end

theorem hsSdTimTaining_resumes {timing : SdDevClk} (sdcConnect : SdDevClk → Bool)
    (resumable : timing.Resumable) :
    let after := hsSdTimTaining sdcConnect timing
    after.position.Resumable ∧ timing.ahead = after.tried ++
        after.position.ahead := by
  rw [hsSdTimTaining_eq]
  apply search_resumes
  · intro _ _ _ here listed
    obtain ⟨resumable, same⟩ := here.first listed
    exact ⟨resumable, same.symm⟩
  · exact fun phase => absurd phase (not_lt.mpr (final_over timing))
  · exact ahead_over (final_over timing)
  · exact resumable

end Hfirmware.Drvhal
