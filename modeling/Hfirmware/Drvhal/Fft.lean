/-
The reordering and the indices of `_ans_ditFFT` and `_aec_ditFFT`.
-/

import Mathlib

namespace Hfirmware.Drvhal.Fft

open List Nat

/-! ### Reordering -/

variable {α : Type} {m x fuel : Nat}

/-- `while (j >= k) { j = j - k; k = k / 2; } j = j + k;`, which does not end at `k = 0`. -/
def carry : Nat → Nat → Nat → Option Nat
  | 0, _, _ => none
  | fuel + 1, j, k => if j ≥ k then carry fuel (j - k) (k / 2) else some (j + k)

structure Reorder (α : Type) where
  j : Nat
  yout_real : Nat → α
  yout_imag : Nat → α

def exchange (y : Nat → α) (i j : Nat) : Nat → α := fun a =>
  if a = i then y j else if a = j then y i else y a

def Reorder.step (imag : Bool) (fuel LH : Nat) (s : Reorder α) (i : Nat) : Option (Reorder α) := do
  let yout_real := if i < s.j then exchange s.yout_real i s.j else s.yout_real
  let yout_imag := if imag ∧ i < s.j then exchange s.yout_imag i s.j else s.yout_imag
  let j ← carry fuel s.j LH
  pure ⟨j, yout_real, yout_imag⟩

/-- The first `count` iterations; the arrays hold `N` entries. -/
def reorder (imag : Bool) (fuel N : Nat) (yout_real yout_imag : Nat → α) (count : Nat) :
    Option (Reorder α) :=
  (List.range' 1 count).foldlM (Reorder.step imag fuel (N / 2)) ⟨N / 2, yout_real, yout_imag⟩

/-- The loop of `_ans_ditFFT` runs to `N - 2`. -/
def ansReorder (inverse : Int) (fuel N : Nat) (yout_real yout_imag : Nat → α) :=
  reorder (inverse == 1) fuel N yout_real yout_imag (N - 2)

def aecReorder (imag_0 : Int) (fuel N : Nat) (yout_real yout_imag : Nat → α) :=
  reorder (imag_0 == 0) fuel N yout_real yout_imag (N - 2)

theorem half_pow : 2 ^ (m + 1) / 2 = 2 ^ m := Nat.pow_div (succ_pos m) two_pos

def reversed (m x : Nat) : Nat := (BitVec.ofNat m x).reverse.toNat

theorem reversed_lt : reversed m x < 2 ^ m := BitVec.isLt _

theorem reversed_top : reversed (m + 1) x = reversed m x * 2 + x / 2 ^ m % 2 := by
  unfold reversed
  rw [BitVec.reverse, BitVec.toNat_concat, BitVec.msb_eq_getLsbD_last, BitVec.getLsbD_ofNat,
    Nat.add_sub_cancel]
  simp [toNat_testBit]

theorem reversed_succ : reversed (m + 1) x = x % 2 * 2 ^ m + reversed m (x / 2) := by
  induction m with
  | zero =>
    rw [reversed_top]
    simp [reversed, BitVec.toNat_of_zero_length]
  | succ m ih =>
    rw [reversed_top, ih, reversed_top, Nat.div_div_eq_div_mul, ← pow_succ']
    ring

theorem reversed_reversed (below : x < 2 ^ m) : reversed m (reversed m x) = x := by
  unfold reversed
  rw [BitVec.ofNat_toNat, BitVec.setWidth_eq, BitVec.reverse_reverse_eq, BitVec.toNat_ofNat,
    mod_eq_of_lt below]

theorem carry_reversed (room : x + 1 < 2 ^ (m + 1)) (enough : m < fuel) :
    carry fuel (reversed (m + 1) x) (2 ^ m) = some (reversed (m + 1) (x + 1)) := by
  induction m generalizing x fuel with
  | zero =>
    obtain ⟨fuel, rfl⟩ := Nat.exists_eq_add_of_lt enough
    obtain rfl : x = 0 := by omega
    rfl
  | succ m ih =>
    obtain ⟨fuel, rfl⟩ := exists_eq_succ_of_ne_zero (ne_zero_of_lt enough)
    have below := @reversed_lt (m + 1) (x / 2)
    rw [carry, reversed_succ, @reversed_succ (m + 1) (x + 1)]
    -- the lowest bit of `x` is the top bit of the counter, the first that the loop tests
    rcases mod_two_eq_zero_or_one x with even | odd
    · rw [even, zero_mul, zero_add, if_neg (by omega),
        show (x + 1) % 2 = 1 by omega, show (x + 1) / 2 = x / 2 by omega]
      congr 1
      omega
    · rw [odd, one_mul, if_pos (by omega), Nat.add_sub_cancel_left,
        half_pow, show (x + 1) % 2 = 0 by omega, show (x + 1) / 2 = x / 2 + 1 by omega, zero_mul,
        zero_add]
      exact ih (by omega) (by omega)

theorem reversed_zero : reversed m 0 = 0 := by
  induction m with
  | zero => rfl
  | succ m ih => rw [reversed_top, ih, Nat.zero_div]

theorem reversed_one : reversed (m + 1) 1 = 2 ^ m := by
  rw [reversed_succ, one_mod, one_mul, show 1 / 2 = 0 from rfl, reversed_zero, add_zero]

/-- The array when the pairs with an index up to `count` are exchanged. -/
def arranged (m count : Nat) (y : Nat → α) (a : Nat) : α :=
  if a < 2 ^ m ∧ (a ≤ count ∨ reversed m a ≤ count) then y (reversed m a) else y a

variable {count : Nat} {y : Nat → α}

theorem arranged_zero : arranged m 0 y = y := by
  funext a
  unfold arranged
  split
  · next moved =>
    obtain ⟨below, first | first⟩ := moved
    · rw [Nat.le_zero.mp first, reversed_zero]
    · have back := reversed_reversed below
      rw [Nat.le_zero.mp first, reversed_zero] at back
      rw [← back, reversed_zero]
  · rfl

theorem arranged_succ (room : count + 1 < 2 ^ m) : arranged m (count + 1) y =
    if count + 1 < reversed m (count + 1) then
      exchange (arranged m count y) (count + 1) (reversed m (count + 1))
    else arranged m count y := by
  have self := reversed_reversed room
  have below := @reversed_lt m (count + 1)
  split
  all_goals
    funext a
    unfold arranged
    by_cases within : a < 2 ^ m
    · have back := reversed_reversed within
      grind [exchange]
    · grind [exchange]

def bitReversed (m : Nat) (y : Nat → α) (a : Nat) : α := if a < 2 ^ m then y (reversed m a) else y a

theorem arranged_full : arranged m (2 ^ m - 2) y = bitReversed m y := by
  funext a
  have bound := @reversed_lt m a
  unfold arranged bitReversed
  grind

theorem reorder_spec (imag : Bool) (yout_real yout_imag : Nat → α) (enough : m < fuel)
    (room : count + 1 < 2 ^ (m + 1)) :
    reorder imag fuel (2 ^ (m + 1)) yout_real yout_imag count =
      some ⟨reversed (m + 1) (count + 1), arranged (m + 1) count yout_real,
        if imag then arranged (m + 1) count yout_imag else yout_imag⟩ := by
  unfold reorder
  rw [half_pow]
  induction count with
  | zero =>
    rw [arranged_zero, arranged_zero, reversed_one, ite_self]
    rfl
  | succ count ih =>
    rw [range'_1_concat, foldlM_append, ih (by omega), add_comm 1 count]
    simp only [Option.bind_eq_bind, Option.bind_some, foldlM_cons, foldlM_nil,
      Reorder.step, carry_reversed room enough]
    rw [arranged_succ (by omega), arranged_succ (by omega)]
    cases imag <;> simp

/-! ### Butterflies -/

structure Butterfly where
  i : Nat
  ip : Nat
  p : Nat

/-- The indices of the stage `L`, in the order of its two loops. -/
def butterflies (N m L : Nat) : List Butterfly :=
  let le := 2 ^ (L + 1)
  let B := le / 2
  (List.range B).flatMap fun j =>
    let p := 2 ^ (m - L - 1) * j
    (List.range' j ((N - j + le - 1) / le) le).map fun i => ⟨i, i + B, p⟩

variable {N L a : Nat} {b : Butterfly}

def Butterfly.of (m L i : Nat) : Butterfly := ⟨i, i + 2 ^ L, 2 ^ (m - L - 1) * (i % 2 ^ (L + 1))⟩

theorem mem_butterflies : b ∈ butterflies N m L ↔
    b.i < N ∧ b.i % 2 ^ (L + 1) < 2 ^ L ∧ b = .of m L b.i := by
  have wide : 2 ^ L < 2 ^ (L + 1) := Nat.pow_lt_pow_succ (by decide)
  simp only [butterflies, half_pow, mem_flatMap, mem_range, mem_map, mem_range',
    Nat.lt_div_iff_mul_lt (Nat.two_pow_pos (L + 1))]
  constructor
  · rintro ⟨j, low, _, ⟨c, inside, rfl⟩, rfl⟩
    have row : (j + 2 ^ (L + 1) * c) % 2 ^ (L + 1) = j := by
      rw [add_mul_mod_self_left, mod_eq_of_lt (low.trans wide)]
    rw [mul_comm] at inside
    unfold Butterfly.of
    rw [row]
    exact ⟨show j + _ < N by omega, low, rfl⟩
  · rintro ⟨inside, low, eq⟩
    have parts := mod_add_div b.i (2 ^ (L + 1))
    refine ⟨_, low, b.i, ⟨b.i / 2 ^ (L + 1), ?_, parts.symm⟩, eq.symm⟩
    rw [mul_comm]
    omega

theorem butterfly_ip (mem : b ∈ butterflies N m L) : b.ip = b.i + 2 ^ L :=
  congrArg Butterfly.ip (mem_butterflies.mp mem).2.2

theorem butterflies_nodup : (butterflies N m L).Nodup := by
  refine nodup_flatMap.mpr ⟨fun j _ => ?_, nodup_range.pairwise_of_forall_ne ?_⟩
  · exact (nodup_range' _ (Nat.two_pow_pos _)).map fun _ _ eq => congrArg Butterfly.i eq
  · intro j _ k _ differ b inJ inK
    obtain ⟨_, _, rfl⟩ := mem_map.mp inJ
    obtain ⟨_, _, eq⟩ := mem_map.mp inK
    exact differ (Nat.eq_of_mul_eq_mul_left (Nat.two_pow_pos _) (congrArg Butterfly.p eq)).symm

theorem butterfly_within (stage : L < m) (mem : b ∈ butterflies (2 ^ m) m L) :
    b.ip = b.i + 2 ^ L ∧ b.ip < 2 ^ m ∧ b.p < 2 ^ m / 2 := by
  obtain ⟨inside, low, eq⟩ := mem_butterflies.mp mem
  have rows : 2 ^ m = 2 ^ (L + 1) * 2 ^ (m - L - 1) := by
    rw [← pow_add]
    congr 1
    omega
  have row := Nat.mul_le_mul_left (2 ^ (L + 1)) (Nat.div_lt_of_lt_mul (rows ▸ inside))
  have twiddle := Nat.mul_lt_mul_of_pos_left low (Nat.two_pow_pos (m - L - 1))
  have parts := mod_add_div b.i (2 ^ (L + 1))
  rw [← rows, mul_add_one] at row
  rw [eq]
  refine ⟨rfl, show b.i + 2 ^ L < 2 ^ m by omega, twiddle.trans_le ?_⟩
  rw [rows, Nat.pow_succ, mul_right_comm, Nat.mul_div_cancel _ two_pos, mul_comm]

theorem butterfly_unique (within : a < N) :
    ∃! b, b ∈ butterflies N m L ∧ (a = b.i ∨ a = b.ip) := by
  have double := Nat.pow_succ 2 L
  by_cases low : a % 2 ^ (L + 1) < 2 ^ L
  · refine ⟨.of m L a, ⟨mem_butterflies.mpr ⟨within, low, rfl⟩, .inl rfl⟩, ?_⟩
    rintro b ⟨mem, rfl | rfl⟩
    · exact (mem_butterflies.mp mem).2.2
    · have lower := (mem_butterflies.mp mem).2.1
      rw [butterfly_ip mem, add_mod, mod_eq_of_lt (show 2 ^ L < 2 ^ (L + 1) by omega),
        mod_eq_of_lt (by omega)] at low
      omega
  · have parts := mod_add_div a (2 ^ (L + 1))
    have back : (a - 2 ^ L) % 2 ^ (L + 1) = a % 2 ^ (L + 1) - 2 ^ L := by
      have rest := Nat.mod_lt a (Nat.two_pow_pos (L + 1))
      rw [show a - 2 ^ L = a % 2 ^ (L + 1) - 2 ^ L + 2 ^ (L + 1) * (a / 2 ^ (L + 1)) by omega,
        add_mul_mod_self_left, mod_eq_of_lt (by omega)]
    refine ⟨.of m L (a - 2 ^ L), ⟨mem_butterflies.mpr ⟨?_, ?_, rfl⟩, .inr ?_⟩, ?_⟩
    · exact (Nat.sub_le a _).trans_lt within
    · change (a - 2 ^ L) % _ < _
      omega
    · change a = a - 2 ^ L + 2 ^ L
      omega
    · rintro b ⟨mem, rfl | rfl⟩
      · exact absurd (mem_butterflies.mp mem).2.1 low
      · rw [butterfly_ip mem, Nat.add_sub_cancel]
        exact (mem_butterflies.mp mem).2.2

/-- Up to `m = 14` no `short` of the loops overflows. -/
theorem fft_indexing (m fuel : Nat) (pos : 0 < m) (enough : m ≤ fuel) (inverse imag_0 : Int)
    (yout_real yout_imag : Nat → α) :
    ((∃ j < 2 ^ m, ansReorder inverse fuel (2 ^ m) yout_real yout_imag = some ⟨j,
        bitReversed m yout_real, if inverse = 1 then bitReversed m yout_imag else yout_imag⟩) ∧
      ∃ j < 2 ^ m, aecReorder imag_0 fuel (2 ^ m) yout_real yout_imag = some ⟨j,
        bitReversed m yout_real, if imag_0 = 0 then bitReversed m yout_imag else yout_imag⟩) ∧
    (∀ imag, ∀ count ≤ 2 ^ m - 2, ∃ s,
      reorder imag fuel (2 ^ m) yout_real yout_imag count = some s ∧ s.j < 2 ^ m) ∧
    ∀ L < m, (butterflies (2 ^ m) m L).Nodup ∧
      (∀ b ∈ butterflies (2 ^ m) m L, b.ip = b.i + 2 ^ L ∧ b.ip < 2 ^ m ∧ b.p < 2 ^ m / 2) ∧
      ∀ a < 2 ^ m, ∃! b, b ∈ butterflies (2 ^ m) m L ∧ (a = b.i ∨ a = b.ip) := by
  obtain ⟨m, rfl⟩ := exists_eq_succ_of_ne_zero pos.ne'
  have two : 2 ≤ 2 ^ (m + 1) := Nat.pow_le_pow_right two_pos pos
  have full imag := reorder_spec imag yout_real yout_imag enough
    (show 2 ^ (m + 1) - 2 + 1 < 2 ^ (m + 1) by omega)
  simp only [arranged_full] at full
  have last := @reversed_lt (m + 1) (2 ^ (m + 1) - 2 + 1)
  refine ⟨⟨⟨_, last, (full _).trans ?_⟩, _, last, (full _).trans ?_⟩,
    fun imag count room => ?_, fun L stage => ?_⟩
  · simp
  · simp
  · exact ⟨_, reorder_spec imag yout_real yout_imag enough (by omega), reversed_lt⟩
  · exact ⟨butterflies_nodup, fun b mem => butterfly_within stage mem, fun a => butterfly_unique⟩

theorem fft_indexing_eight :
    ∃ j < 2 ^ 8, aecReorder 0 8 (2 ^ 8) id id = some ⟨j, bitReversed 8 id, bitReversed 8 id⟩ :=
  (fft_indexing 8 8 (by decide) le_rfl 0 0 id id).1.2

end Hfirmware.Drvhal.Fft
