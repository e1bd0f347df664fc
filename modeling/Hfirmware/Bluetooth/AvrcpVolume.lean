/-
The volume of the local player and the level that AVRCP has for it.
-/

import Hfirmware.FixedWidth

namespace Hfirmware.Bluetooth.Avrcp

inductive Sent where
  | volumeUp | volumeDown
  | absoluteVolume (vol : Nat)
deriving DecidableEq

/-- The range of the codec, the volume of `AVOL_DEV_NOR` and the level. -/
structure Volume where
  (min max s16Dev : Int)
  muted : Bool
  s_app_avrcp_vol : Nat
  sent : List Sent

namespace Volume

variable (volume : Volume)

def audioLevel2DB (level : Nat) : Int :=
  volume.min + ((volume.max - volume.min) * level).tdiv 127

def audioDB2level (db : Int) : Int :=
  ((db - volume.min) * 127).tdiv (volume.max - volume.min)

def volSet (s16Vol : Int) : Volume :=
  let most := if s16Vol ≥ volume.max then volume.max else s16Vol
  if most ≤ volume.min then { volume with s16Dev := volume.min, muted := true }
  else { volume with s16Dev := most, muted := false }

def avrcpSetSpkVol (level : Nat) : Volume :=
  volSet { volume with muted := decide (level ≤ 0), s_app_avrcp_vol := level }
    (volume.audioLevel2DB level)

def avrcpVolChange (db : Int) : Volume :=
  let vol := u8 (volume.audioDB2level db).toNat
  let key := if volume.s_app_avrcp_vol ≤ vol then Sent.volumeUp else .volumeDown
  let set := volume.avrcpSetSpkVol vol
  { set with sent := set.sent ++ [key, .absoluteVolume vol] }

end Volume

section

variable {volume : Volume} {db : Int}

theorem audioDB2level_eq (low : volume.min ≤ db) :
    volume.audioDB2level db = (db - volume.min) * 127 / (volume.max - volume.min) :=
  Int.tdiv_eq_ediv_of_nonneg (by omega)

variable (ordered : volume.min < volume.max)
include ordered

theorem audioLevel2DB_eq (level : Nat) : volume.audioLevel2DB level =
    volume.min + (volume.max - volume.min) * level / 127 := by
  unfold Volume.audioLevel2DB
  rw [Int.tdiv_eq_ediv_of_nonneg (Int.mul_nonneg (by omega) (Int.natCast_nonneg _))]

theorem audioDB2level_mono {a b : Int} (low : volume.min ≤ a) (less : a ≤ b)
    (high : b ≤ volume.max) : 0 ≤ volume.audioDB2level a ∧
      volume.audioDB2level a ≤ volume.audioDB2level b ∧ volume.audioDB2level b ≤ 127 := by
  rw [audioDB2level_eq low, audioDB2level_eq (Int.le_trans low less)]
  refine ⟨Int.ediv_nonneg (by omega) (by omega), Int.ediv_le_ediv (by omega) (by omega), ?_⟩
  exact Int.ediv_le_of_le_mul (by omega) (by omega)

theorem audioLevel2DB_mono {a b : Nat} (less : a ≤ b) (high : b ≤ 127) :
    volume.min ≤ volume.audioLevel2DB a ∧ volume.audioLevel2DB a ≤ volume.audioLevel2DB b ∧
      volume.audioLevel2DB b ≤ volume.max := by
  rw [audioLevel2DB_eq ordered, audioLevel2DB_eq ordered]
  have positive : 0 ≤ volume.max - volume.min := by omega
  have first := Int.mul_nonneg positive (Int.natCast_nonneg a)
  have second := Int.mul_le_mul_of_nonneg_left (Int.ofNat_le.mpr less) positive
  have third := Int.mul_le_mul_of_nonneg_left (Int.ofNat_le.mpr high) positive
  omega

/-- What is left when the level is taken is lost on the way back. -/
theorem round_trip_iff (low : volume.min ≤ db) (high : db ≤ volume.max) :
    volume.audioLevel2DB (volume.audioDB2level db).toNat = db ↔
      volume.max - volume.min ∣ (db - volume.min) * 127 := by
  have nonneg := (audioDB2level_mono ordered low (Int.le_refl _) high).1
  have split := Int.mul_ediv_add_emod ((db - volume.min) * 127) (volume.max - volume.min)
  have rest := Int.emod_nonneg ((db - volume.min) * 127) (show volume.max - volume.min ≠ 0 by omega)
  rw [audioLevel2DB_eq ordered, Int.toNat_of_nonneg nonneg, audioDB2level_eq low,
    Int.dvd_iff_emod_eq_zero]
  omega

end

theorem volume_round_trip (volume : Volume) (db : Int) (ordered : volume.min < volume.max)
    (low : volume.min ≤ db) (high : db ≤ volume.max) :
    ((volume.avrcpVolChange db).s16Dev = db ↔ volume.max - volume.min ∣ (db - volume.min) * 127) ∧
      (∀ a b, volume.min ≤ a → a ≤ b → b ≤ volume.max → 0 ≤ volume.audioDB2level a ∧
        volume.audioDB2level a ≤ volume.audioDB2level b ∧ volume.audioDB2level b ≤ 127) ∧
      ∀ a b : Nat, a ≤ b → b ≤ 127 → volume.min ≤ volume.audioLevel2DB a ∧
        volume.audioLevel2DB a ≤ volume.audioLevel2DB b ∧ volume.audioLevel2DB b ≤ volume.max := by
  refine ⟨?_, fun a b => audioDB2level_mono ordered, fun a b => audioLevel2DB_mono ordered⟩
  obtain ⟨nonneg, -, level⟩ := audioDB2level_mono ordered low (Int.le_refl _) high
  have byte : u8 (volume.audioDB2level db).toNat = (volume.audioDB2level db).toNat := by
    unfold u8
    omega
  obtain ⟨least, -, most⟩ := audioLevel2DB_mono ordered (le_refl _)
    (show (volume.audioDB2level db).toNat ≤ 127 by omega)
  rw [← round_trip_iff ordered low high]
  unfold Volume.avrcpVolChange
  dsimp only
  rw [byte]
  refine Eq.congr_left ?_
  unfold Volume.avrcpSetSpkVol Volume.volSet
  dsimp only
  split <;> split <;> dsimp only <;> omega

theorem volume_round_trip_max : (Volume.avrcpVolChange ⟨-47, 0, 0, false, 127, []⟩ 0).s16Dev = 0 :=
  (volume_round_trip ⟨-47, 0, 0, false, 127, []⟩ 0 (by decide) (by decide) (by decide)).1.mpr
    (by decide)

/-- A volume of -1 dB goes down by a step with each report. -/
theorem volume_round_trip_falls :
    (Volume.avrcpVolChange ⟨-47, 0, -1, false, 124, []⟩ (-1)).s16Dev = -2 ∧
      (Volume.avrcpVolChange ⟨-47, 0, -2, false, 121, []⟩ (-2)).s16Dev = -3 := by
  decide

end Hfirmware.Bluetooth.Avrcp
