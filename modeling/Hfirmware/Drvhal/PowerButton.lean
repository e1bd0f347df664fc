/-
The power button. It is armed when it was seen released for a while; from then on the
length of a press is counted in a byte.
-/

import Hfirmware.LoggedRun

namespace Hfirmware.Drvhal

open List LoggedRun

inductive PmuAction where
  | sysBnPressed | prePoweroff | powerOff | playerDestroy | btAudioStop | pmuPoweroff
deriving DecidableEq

structure HsPmupara where
  u8Cnt : Nat
  u8ScanEnable : Bool
deriving DecidableEq

def HsPmupara.init : HsPmupara := ⟨0, false⟩

/-- `_pmu_powerByButton`; the pin is low as long as the button is pressed. -/
def pmuPowerByButton (para : HsPmupara) (u8Status : Bool) : HsPmupara × List PmuAction :=
  if para.u8ScanEnable = false then
    let u8Cnt := if u8Status then (para.u8Cnt + 1) % 2 ^ 8 else 0
    if 10 < u8Cnt then ({ u8Cnt := 0, u8ScanEnable := true }, [])
    else ({ para with u8Cnt }, [])
  else if u8Status then
    if 30 < para.u8Cnt then ({ u8Cnt := 0, u8ScanEnable := false }, [.powerOff])
    else ({ para with u8Cnt := 0 }, [])
  else
    let u8Cnt := (para.u8Cnt + 1) % 2 ^ 8
    ({ para with u8Cnt }, if u8Cnt = 30 then [.prePoweroff] else [])

inductive PowerOnMode where
  | button | switch

def hsPmuScanPowerPin (u8PowerOnMode : PowerOnMode) (para : HsPmupara) (u8Status : Bool) :
    HsPmupara × List PmuAction :=
  match u8PowerOnMode with
  | .button =>
    let (after, actions) := pmuPowerByButton para u8Status
    (after, (if u8Status = false ∧ para.u8ScanEnable then [.sysBnPressed] else []) ++ actions)
  | .switch =>
    let u8Cnt := if u8Status then (para.u8Cnt + 1) % 2 ^ 8 else 0
    ({ para with u8Cnt },
      if u8Cnt = 10 then [.playerDestroy, .btAudioStop, .prePoweroff, .pmuPoweroff] else [])

def powerRun (samples : List Bool) : HsPmupara × List PmuAction :=
  LoggedRun.run pmuPowerByButton .init samples

def PressProtocol (pressed released : List PmuAction) : Prop :=
  pressed.count .prePoweroff ≤ 1 ∧ (.powerOff ∈ released ↔ .prePoweroff ∈ pressed)

instance (pressed released : List PmuAction) : Decidable (PressProtocol pressed released) :=
  inferInstanceAs (Decidable (_ ∧ _))

theorem released_armed {para : HsPmupara} (armed : (pmuPowerByButton para true).1.u8ScanEnable) :
    (pmuPowerByButton para true).1 = ⟨0, true⟩ := by
  unfold pmuPowerByButton at armed ⊢
  cases enabled : para.u8ScanEnable with
  | false =>
    rw [enabled] at armed
    rw [if_pos rfl, if_pos rfl] at armed ⊢
    by_cases long : 10 < (para.u8Cnt + 1) % 2 ^ 8
    · rw [if_pos long]
    · rw [if_neg long] at armed
      cases armed
  | true =>
    rw [enabled] at armed
    rw [if_neg nofun, if_pos rfl] at armed ⊢
    by_cases long : 30 < para.u8Cnt
    · rw [if_pos long] at armed
      cases armed
    · rw [if_neg long]

theorem pressed_step (count : Nat) : pmuPowerByButton ⟨count, true⟩ false =
    (⟨(count + 1) % 2 ^ 8, true⟩, if (count + 1) % 2 ^ 8 = 30 then [.prePoweroff] else []) := rfl

theorem press_run (length : Nat) : run pmuPowerByButton ⟨0, true⟩ (replicate length false) =
      (⟨length % 2 ^ 8, true⟩, replicate ((length + 226) / 2 ^ 8) .prePoweroff) := by
  induction length with
  | zero => rfl
  | succ length ih =>
    rw [replicate_succ', run_snoc, ih, pressed_step, Nat.mod_add_mod]
    by_cases thirty : (length + 1) % 2 ^ 8 = 30
    · have once : (length + 1 + 226) / 2 ^ 8 = (length + 226) / 2 ^ 8 + 1 := by omega
      rw [if_pos thirty, once, replicate_succ']
    · have same : (length + 1 + 226) / 2 ^ 8 = (length + 226) / 2 ^ 8 := by omega
      rw [if_neg thirty, same, append_nil]

theorem release_powerOff (count : Nat) :
    .powerOff ∈ (pmuPowerByButton ⟨count, true⟩ true).2 ↔ 30 < count := by
  unfold pmuPowerByButton
  by_cases long : 30 < count
  · rw [if_pos long]
    exact iff_of_true (.head _) long
  · rw [if_neg long]
    exact iff_of_false not_mem_nil long

theorem press_protocol_iff (length : Nat) :
    PressProtocol (run pmuPowerByButton ⟨0, true⟩ (replicate length false)).2 (pmuPowerByButton
          (run pmuPowerByButton ⟨0, true⟩ (replicate length false)).1 true).2 ↔
      length ≠ 30 ∧ length < 2 ^ 8 := by
  unfold PressProtocol
  rw [press_run, release_powerOff, count_replicate_self, mem_replicate]
  constructor
  · intro ⟨once, together⟩
    by_cases long : 30 < length % 2 ^ 8
    · have prepared := (together.mp long).1
      omega
    · have quiet : (length + 226) / 2 ^ 8 = 0 := by
        by_contra prepared
        exact long (together.mpr ⟨prepared, rfl⟩)
      omega
  · intro ⟨notThirty, short⟩
    refine ⟨by omega, fun long => ⟨by omega, rfl⟩, fun ⟨prepared, _⟩ => by omega⟩

/-- A press after any samples that have armed the scan. -/
theorem power_button_protocol (before : List Bool) (length : Nat)
    (armed : (powerRun (before ++ [true])).1.u8ScanEnable = true) :
    PressProtocol (LoggedRun.run pmuPowerByButton (powerRun (before ++ [true])).1
          (List.replicate length false)).2
        (pmuPowerByButton (LoggedRun.run pmuPowerByButton (powerRun (before ++ [true])).1
          (List.replicate length false)).1 true).2 ↔
      length ≠ 30 ∧ length < 2 ^ 8 := by
  have waits : (powerRun (before ++ [true])).1 = ⟨0, true⟩ := by
    unfold powerRun at armed ⊢
    rw [run_snoc] at armed ⊢
    exact released_armed armed
  rw [waits]
  exact press_protocol_iff length

theorem power_button_protocol_forty :
    (powerRun (List.replicate 10 true ++ [true])).1.u8ScanEnable = true ∧
      PressProtocol (LoggedRun.run pmuPowerByButton (powerRun (List.replicate 10 true ++ [true])).1
          (List.replicate 40 false)).2
        (pmuPowerByButton
          (LoggedRun.run pmuPowerByButton (powerRun (List.replicate 10 true ++ [true])).1
            (List.replicate 40 false)).1 true).2 :=
  ⟨by decide, (power_button_protocol _ 40 (by decide)).mpr (by decide)⟩

/-- With thirty samples the switch-off is prepared and not carried out; with 256 more it is
prepared twice. -/
theorem power_button_protocol_thirty : (powerRun (List.replicate 10 true ++ [true])).1 = ⟨0, true⟩ ∧
    ¬ PressProtocol (LoggedRun.run pmuPowerByButton ⟨0, true⟩ (List.replicate 30 false)).2
      (pmuPowerByButton
        (LoggedRun.run pmuPowerByButton ⟨0, true⟩ (List.replicate 30 false)).1 true).2 ∧
    ¬ PressProtocol (LoggedRun.run pmuPowerByButton ⟨0, true⟩ (List.replicate 286 false)).2
      (pmuPowerByButton
        (LoggedRun.run pmuPowerByButton ⟨0, true⟩ (List.replicate 286 false)).1 true).2 := by
  rw [press_protocol_iff, press_protocol_iff]
  decide

/-- An announced press that is not over can switch off once. -/
structure Announced (para : HsPmupara) (log : List PmuAction) : Prop where
  sofar : log.count .powerOff ≤ log.count .prePoweroff
  pending : para.u8ScanEnable → 30 ≤ para.u8Cnt → log.count .powerOff < log.count .prePoweroff

theorem Announced.step {para log} (announced : Announced para log) (u8Status : Bool) :
    Announced (hsPmuScanPowerPin .button para u8Status).1
      (log ++ (hsPmuScanPowerPin .button para u8Status).2) := by
  obtain ⟨sofar, pending⟩ := announced
  unfold hsPmuScanPowerPin pmuPowerByButton
  cases armed : para.u8ScanEnable with
  | false => constructor <;> grind
  | true =>
    -- a count above 30 was 30 before, when the press was announced
    constructor <;> grind

theorem powerOff_announced (samples : List Bool) :
    let log := (run (hsPmuScanPowerPin .button) .init samples).2
    log.count .powerOff ≤ log.count .prePoweroff :=
  (run_invariant (fun _ => Announced) ⟨le_rfl, fun armed => by cases armed⟩
    (fun _ _ _ u8Status announced => announced.step u8Status) samples).sofar

end Hfirmware.Drvhal
