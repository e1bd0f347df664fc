/-
The analogue inputs: the calibration average and the capture by DMA.
-/

import Mathlib

namespace Hfirmware.Drvhal.Adc

open List Nat

/-! ### Calibration -/

/-- `hs_adc_getInteger`: the bits above the sign are filled in and read as `int16_t`. -/
def getInteger (data : Nat) : Int :=
  let data : Nat := data % 2 ^ 12
  if data < 2 ^ 11 then data else data + 0xf000 - 2 ^ 16

def accumulate (samples : List (BitVec 12)) : Nat :=
  samples.foldl (fun data raw => (data + raw.toNat) % 2 ^ 16) 0

/-- The `sdata` of `hs_adc_adjust`. -/
def adjust (samples : Fin 32 → BitVec 12) : Int :=
  getInteger (accumulate (List.ofFn samples) / 32)

def negatives (samples : List (BitVec 12)) : Nat := samples.countP BitVec.msb

def total (samples : List (BitVec 12)) : Int := (samples.map BitVec.toInt).sum

theorem accumulate_eq (samples : List (BitVec 12)) :
    accumulate samples = (samples.map BitVec.toNat).sum % 2 ^ 16 := by
  suffices ∀ data, samples.foldl (fun data raw => (data + raw.toNat) % 2 ^ 16) (data % 2 ^ 16) =
      (data + (samples.map BitVec.toNat).sum) % 2 ^ 16 by
    simpa [accumulate] using this 0
  induction samples with
  | nil => simp
  | cons raw rest ih =>
    intro data
    rw [foldl_cons, mod_add_mod, ih, map_cons, sum_cons, add_assoc]

theorem total_eq (samples : List (BitVec 12)) :
    total samples + 2 ^ 12 * negatives samples = (samples.map BitVec.toNat).sum ∧
      total samples ≤ 2047 * samples.length := by
  induction samples with
  | nil => exact ⟨rfl, by decide⟩
  | cons raw rest ih =>
    have value := BitVec.toInt_eq_msb_cond raw
    have bound := raw.isLt
    have sign := BitVec.msb_eq_decide raw
    simp only [total, negatives, map_cons, sum_cons, countP_cons, length_cons] at ih ⊢
    cases high : raw.msb
    all_goals
      rw [high] at value sign
      simp at value sign
      simp only [Bool.false_eq_true, if_false, if_true]
      omega

/-- The average is right exactly if the lost signs add up to whole turns of the accumulator
and the samples do not add up to a negative number. -/
theorem calibration (samples : Fin 32 → BitVec 12) :
    adjust samples = (total (List.ofFn samples)).tdiv 32 ↔
      16 ∣ negatives (List.ofFn samples) ∧ 0 ≤ total (List.ofFn samples) := by
  obtain ⟨sum, bound⟩ := total_eq (ofFn samples)
  rw [length_ofFn] at bound
  unfold adjust
  rw [accumulate_eq]
  generalize (List.map BitVec.toNat (ofFn samples)).sum = raw at sum ⊢
  have value : getInteger (raw % 2 ^ 16 / 32) = (raw % 2 ^ 16 / 32 : Nat) := by
    unfold getInteger
    dsimp only
    split <;> omega
  rw [value]
  by_cases positive : 0 ≤ total (ofFn samples)
  · rw [Int.tdiv_eq_ediv_of_nonneg positive]
    omega
  · have mirrored := Int.neg_tdiv (total (ofFn samples)) 32
    rw [Int.tdiv_eq_ediv_of_nonneg (by omega)] at mirrored
    omega

/-- Thirty-two times -1 is taken for the largest value. -/
theorem calibration_negative :
    adjust (fun _ => 0xfff) = 2047 ∧ (total (List.ofFn fun _ : Fin 32 => 0xfff)).tdiv 32 = -1 := by
  decide

/-! ### Capture by DMA -/

def adcChannelNum : Nat := 9

def adcMdaMaxlen : Nat := 2 * 1024

/-- The enabled channels, and `configured` where `pstChnPara[i]` is set. -/
structure Channels where
  enabled : Nat → Bool
  configured : Nat → Bool

/-- The loops over the channels that are not in the map. -/
def Channels.others (adc : Channels) (u16ChnMap : BitVec 16) (on : Bool) : Channels :=
  if u16ChnMap ≠ 0 then
    { adc with enabled := fun i =>
        if i < adcChannelNum ∧ u16ChnMap.getLsbD i = false ∧ adc.configured i then on
        else adc.enabled i }
  else adc

/-- The pieces, of which the one after `delivered` bytes succeeds if `outcome` says so. -/
def pieces (outcome : Nat → Bool) : Nat → Nat → Nat → Int × Nat
  | 0, _, delivered => (0, delivered)
  | fuel + 1, u32Len, delivered =>
    if u32Len = 0 then (0, delivered)
    else if outcome delivered then
      pieces outcome fuel (u32Len - min u32Len adcMdaMaxlen) (delivered + min u32Len adcMdaMaxlen)
    else (-1, delivered)

end Hfirmware.Drvhal.Adc
