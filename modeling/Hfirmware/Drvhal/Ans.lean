/-
The fixed-point arithmetic of the noise suppressor.
-/

import Mathlib

namespace Hfirmware.Drvhal.Ans

open List Nat

/-! ### Square root -/

/-- The trial value of a round of `sqrt_16b` for the bit `bit`, not reduced. -/
def trial (n bit : Nat) : Nat := (2 * n + 2 ^ bit) * 2 ^ bit

/-- The rounds for the bits below `bits`. -/
def sqrtRounds : Nat → Nat → Nat → Nat
  | 0, _, n => n
  | bit + 1, x, n =>
    let temp := trial n bit % 2 ^ 32
    if x ≥ temp then sqrtRounds bit (x - temp) (n + 2 ^ bit) else sqrtRounds bit x n

def sqrt16b (x : Nat) : Nat := if x ≤ 1 then x else sqrtRounds 16 x 0

/-- The trial values of the rounds. -/
def trials : Nat → Nat → Nat → List Nat
  | 0, _, _ => []
  | bit + 1, x, n =>
    let temp := trial n bit % 2 ^ 32
    trial n bit :: if x ≥ temp then trials bit (x - temp) (n + 2 ^ bit) else trials bit x n

/-- The remainder and the root so far: the root of `x + n * n` is less than the next multiple of
the bits that are left. -/
theorem sqrtRounds_spec {bits x n : Nat} (small : n + 2 ^ bits ≤ 2 ^ 16)
    (least : x + n * n < (n + 2 ^ bits) * (n + 2 ^ bits)) :
    sqrtRounds bits x n = sqrt (x + n * n) ∧ ∀ temp ∈ trials bits x n, temp < 2 ^ 32 := by
  induction bits generalizing x n with
  | zero => exact ⟨eq_sqrt.mpr ⟨Nat.le_add_left _ _, least⟩, nofun⟩
  | succ bit ih =>
    rw [Nat.pow_succ, Nat.mul_two] at small least
    have square : (n + 2 ^ bit) * (n + 2 ^ bit) = trial n bit + n * n := by
      unfold trial
      ring
    have positive : 0 < 2 ^ bit := Nat.two_pow_pos bit
    have fits : trial n bit < 2 ^ 32 := by
      have bound : (n + 2 ^ bit) * (n + 2 ^ bit) ≤ (2 ^ 16 - 1) * (2 ^ 16 - 1) :=
        Nat.mul_le_mul (by omega) (by omega)
      omega
    unfold sqrtRounds trials
    rw [mod_eq_of_lt fits]
    dsimp only
    split
    · next more =>
      have rest : x - trial n bit + (n + 2 ^ bit) * (n + 2 ^ bit) = x + n * n := by omega
      rw [← rest] at least ⊢
      obtain ⟨root, later⟩ := @ih (x - trial n bit) (n + 2 ^ bit) (by omega)
        (by rwa [add_assoc])
      exact ⟨root, forall_mem_cons.mpr ⟨fits, later⟩⟩
    · next less =>
      obtain ⟨root, later⟩ := @ih x n (by omega) (by omega)
      exact ⟨root, forall_mem_cons.mpr ⟨fits, later⟩⟩

theorem square_root (x : BitVec 32) : sqrt16b x.toNat = sqrt x.toNat ∧
    ∀ temp ∈ trials 16 x.toNat 0, temp < 2 ^ 32 := by
  have small : x.toNat < 2 ^ 32 := x.isLt
  obtain ⟨root, fits⟩ := @sqrtRounds_spec 16 x.toNat 0 (by decide) (by omega)
  refine ⟨?_, fits⟩
  unfold sqrt16b
  split
  · next tiny =>
    rcases le_one_iff_eq_zero_or_eq_one.mp tiny with zero | one
    · rw [zero, sqrt_zero]
    · rw [one, sqrt_one]
  · exact root

/-! ### Bias correction -/

def Md : Nat := 0xCC16

def Md_sub : Nat := 0x9F42

def qEqRecip (Q_eq : Nat) : Nat := if Q_eq = 0 then 2 ^ 32 - 1 else 2 ^ 31 / Q_eq

/-- `Q_eq_e`, shifted in 32 bits. -/
def qEqE (Q_eq : Nat) : Nat :=
  min 0xffff ((qEqRecip Q_eq + 2 ^ 32 - 2 * Md) % 2 ^ 32 * 2 ^ 8 % 2 ^ 32 / (0x10000 - Md))

/-- `Q_eq_e_sub`, shifted in 64 bits. -/
def qEqESub (Q_eq : Nat) : Nat :=
  min 0xffff ((qEqRecip Q_eq + 2 ^ 32 - 2 * Md_sub) % 2 ^ 32 * 2 ^ 8 % 2 ^ 64 / (0x10000 - Md_sub))

/-- `Bmin` and `Bmin_sub`, with `D - 1` and `V - 1`. -/
def bias (window e : Nat) : Nat :=
  if e = 0 then 0xffff else (window * 2 ^ 17 / e % 2 ^ 16 + 0x100) % 2 ^ 16

def bmin (Q_eq : Nat) : Nat := bias 39 (qEqE Q_eq)

def bminSub (Q_eq : Nat) : Nat := bias 9 (qEqESub Q_eq)

/-- The quotient in exact arithmetic. -/
def exactE (md Q_eq : Nat) : Nat := min 0xffff ((qEqRecip Q_eq - 2 * md) * 2 ^ 8 / (0x10000 - md))

section

variable {Q_eq next : Nat} (order : Q_eq ≤ next)
include order

theorem qEqRecip_anti : qEqRecip next ≤ qEqRecip Q_eq := by
  unfold qEqRecip
  by_cases zero : Q_eq = 0
  · rw [if_pos zero]
    split
    · exact le_refl _
    · exact le_trans (Nat.div_le_self _ _) (by decide)
  · rw [if_neg zero, if_neg (by omega)]
    exact div_le_div_left order (Nat.pos_of_ne_zero zero)

theorem exactE_anti (md : Nat) : exactE md next ≤ exactE md Q_eq := by
  have less := Nat.sub_le_sub_right (qEqRecip_anti order) (2 * md)
  have quotient := Nat.div_le_div_right (c := 0x10000 - md) (Nat.mul_le_mul_right (2 ^ 8) less)
  unfold exactE
  omega

/-- A window of at most 39 and quotients of at least 512 leave no carry out of 16 bits. -/
theorem bias_exactE {md window : Nat} (least : 512 ≤ exactE md next) (short : window ≤ 39) :
    bias window (exactE md Q_eq) ≤ bias window (exactE md next) := by
  have more := exactE_anti order md
  have bound {e : Nat} (large : 512 ≤ e) :
      bias window e = window * 2 ^ 17 / e + 0x100 := by
    have most := div_le_div_left (a := window * 2 ^ 17) large (by decide)
    unfold bias
    rw [if_neg (by omega), mod_eq_of_lt (show window * 2 ^ 17 / e < 2 ^ 16 by omega)]
    exact mod_eq_of_lt (by omega)
  rw [bound least, bound (le_trans least more)]
  exact Nat.add_le_add_right (div_le_div_left more (by omega)) _

end

/-- The shift in 32 bits loses nothing, or what it keeps is over the limit as well. -/
def Saturates (Q_eq : Nat) : Prop :=
  128 ≤ Q_eq ∨ 0xffff * (0x10000 - Md) ≤ (qEqRecip Q_eq - 2 * Md) % 2 ^ 24 * 2 ^ 8

theorem qEqESub_exact {Q_eq : Nat} (high : Q_eq ≤ 0x4000) : qEqESub Q_eq = exactE Md_sub Q_eq := by
  have least : 0x20000 ≤ qEqRecip Q_eq := qEqRecip_anti high
  have most : qEqRecip Q_eq ≤ 2 ^ 32 - 1 := qEqRecip_anti (Nat.zero_le Q_eq)
  have plain : (qEqRecip Q_eq + 2 ^ 32 - 2 * Md_sub) % 2 ^ 32 = qEqRecip Q_eq - 2 * Md_sub := by
    unfold Md_sub
    omega
  rw [qEqESub, plain, mod_eq_of_lt (by omega), exactE]

/-- Below 128 the exact quotient is over the limit, so the wrapped one has to be. -/
theorem qEqE_exact_iff {Q_eq : Nat} (high : Q_eq ≤ 0x4000) :
    qEqE Q_eq = exactE Md Q_eq ↔ Saturates Q_eq := by
  have least : 0x20000 ≤ qEqRecip Q_eq := qEqRecip_anti high
  have most : qEqRecip Q_eq ≤ 2 ^ 32 - 1 := qEqRecip_anti (Nat.zero_le Q_eq)
  have plain : (qEqRecip Q_eq + 2 ^ 32 - 2 * Md) % 2 ^ 32 = qEqRecip Q_eq - 2 * Md := by
    unfold Md
    omega
  rw [qEqE, plain, exactE, Saturates]
  by_cases large : 128 ≤ Q_eq
  · have fits : qEqRecip Q_eq ≤ 2 ^ 24 := qEqRecip_anti large
    rw [mod_eq_of_lt (by unfold Md; omega)]
    simp [large]
  · have lost : 2 ^ 31 / 127 ≤ qEqRecip Q_eq := qEqRecip_anti (show Q_eq ≤ 127 by omega)
    have left : 2 ^ 24 < qEqRecip Q_eq - 2 * Md := by
      unfold Md
      omega
    generalize qEqRecip Q_eq - 2 * Md = rest at left
    have kept : rest * 2 ^ 8 % 2 ^ 32 = rest % 2 ^ 24 * 2 ^ 8 := by omega
    simp only [kept, large, false_or, show 0x10000 - Md = 13290 by decide]
    omega

theorem bias_correction (Q_eq next : Nat) (order : Q_eq ≤ next) (high : next ≤ 0x4000) :
    qEqESub Q_eq = exactE Md_sub Q_eq ∧ bminSub Q_eq ≤ bminSub next ∧
      (qEqE Q_eq = exactE Md Q_eq ↔ Saturates Q_eq) ∧
      (Saturates Q_eq → Saturates next → bmin Q_eq ≤ bmin next) := by
  have low := le_trans order high
  refine ⟨qEqESub_exact low, ?_, qEqE_exact_iff low, fun exact later => ?_⟩
  · unfold bminSub
    rw [qEqESub_exact low, qEqESub_exact high]
    exact bias_exactE order (exactE_anti high Md_sub) (by decide)
  · unfold bmin
    rw [(qEqE_exact_iff low).mpr exact, (qEqE_exact_iff high).mpr later]
    exact bias_exactE order (exactE_anti high Md) (by decide)

/-- 100 is below 128, and what the shift keeps of it is over the limit. -/
theorem bias_correction_top : bmin 100 ≤ bmin 0x4000 :=
  (bias_correction 100 0x4000 (by decide) (by decide)).2.2.2
    (Or.inr (by decide)) (Or.inl (by decide))

/-- The shift in 32 bits loses the upper bits of the reciprocal of 127. -/
theorem bias_correction_wraps :
    qEqE 127 = 531 ∧ exactE Md 127 = 0xffff ∧ bmin 127 = 9882 ∧ bmin 128 = 334 := by
  decide

end Hfirmware.Drvhal.Ans
