/-
The fixed-point arithmetic of the echo canceller.
-/

import Mathlib

namespace Hfirmware.Drvhal.Aec

open List Nat

/-! ### Post gain -/

/-- What a frame decides: whether band 0 is to be damped (`residue_is_small` or no near
end), and `far_end_active_1`. -/
structure NlpFrame where
  (damped far_end_active_1 : Bool)

structure Nlp where
  (nlp_count far_end_nlp_count : Nat)

def nlpMax : Nat := 1024

def postGain : Nat := 0x25ff

def Nlp.init : Nlp := ⟨nlpMax, 512⟩

def Nlp.step (nlp : Nlp) (frame : NlpFrame) : Nlp :=
  let nlp_count :=
    if frame.damped then if nlp.nlp_count > 60 + 40 then nlp.nlp_count - 40 else 60
    else if nlp.nlp_count + 10 > nlpMax then nlpMax
    else nlp.nlp_count + 10
  { nlp_count
    far_end_nlp_count :=
      if frame.far_end_active_1 then nlp_count
      else if nlp.far_end_nlp_count + 10 ≥ postGain then postGain
      else nlp.far_end_nlp_count + 10 }

/-- `y_sub_real[k]` and `y_sub_imag[k]` of an inactive far end, with `long` products. -/
def ySub (far_end_nlp_count : Nat) (y : Int16) : Int :=
  let temp_32_1 := (y.toInt * (far_end_nlp_count * 2 ^ 4)).bmod (2 ^ 32) / 2 ^ 14
  if temp_32_1 > 0x7fff then 0x7fff
  else if temp_32_1 < -0x7fff then -0x7fff
  else temp_32_1

/-- The product of sample and gain keeps its sign in 32 bits, or loses 2 ^ 32 and is over the
limit on its own side again. -/
def KeepsSide (product : Int) : Prop :=
  -2 ^ 27 ≤ product ∧ product < 2 ^ 27 ∨
    2 ^ 28 + 32767 * 2 ^ 10 ≤ product ∨ product < -(2 ^ 28 + 32766 * 2 ^ 10)

theorem Nlp.counts_le (frames : List NlpFrame) :
    (frames.foldl Nlp.step .init).nlp_count ≤ nlpMax ∧
      (frames.foldl Nlp.step .init).far_end_nlp_count ≤ postGain := by
  refine List.foldlRecOn (motive := fun nlp => nlp.nlp_count ≤ nlpMax ∧
    nlp.far_end_nlp_count ≤ postGain) (b := .init) frames Nlp.step (by decide) ?_
  rintro nlp ⟨limited, gained⟩ frame -
  have counted : (nlp.step frame).nlp_count ≤ nlpMax := by
    unfold Nlp.step nlpMax at *
    grind
  refine ⟨counted, ?_⟩
  change (if frame.far_end_active_1 then (nlp.step frame).nlp_count else _) ≤ _
  unfold nlpMax postGain at *
  grind

/-- Gains up to `post_gain` make the product lose 2 ^ 32 at most once. -/
theorem ySub_eq_iff {count : Nat} {y : Int16} (gain : count ≤ postGain) :
    ySub count y = max (-32767) (min 32767 (y.toInt * count / 1024)) ↔
      KeepsSide (y.toInt * count) := by
  have least : -2 ^ 15 ≤ y.toInt := y.le_toInt
  have most : y.toInt < 2 ^ 15 := y.toInt_lt
  have upper : y.toInt * count ≤ 2 ^ 15 * postGain := by
    have := Int.mul_le_mul (le_of_lt most) (Int.ofNat_le.mpr gain) (Int.natCast_nonneg count)
      (by decide)
    exact this
  have lower : -(2 ^ 15 * postGain) ≤ y.toInt * count := by
    have := Int.mul_le_mul_of_nonneg_right least (Int.natCast_nonneg count)
    omega
  unfold ySub KeepsSide
  rw [← Int.mul_assoc]
  generalize y.toInt * count = product at *
  unfold postGain at *
  unfold Int.bmod
  dsimp only
  split <;> split <;> omega

theorem post_gain (frames : List NlpFrame) (y : Int16) :
    let count := (frames.foldl Nlp.step .init).far_end_nlp_count
    (ySub count y = max (-32767) (min 32767 (y.toInt * count / 1024)) ↔
        KeepsSide (y.toInt * count)) ∧
      (KeepsSide (y.toInt * count) →
        (0 ≤ y.toInt → 0 ≤ ySub count y) ∧ (y.toInt ≤ 0 → ySub count y ≤ 0)) := by
  intro count
  have exact := ySub_eq_iff (y := y) (show count ≤ postGain from (Nlp.counts_le frames).2)
  refine ⟨exact, fun keeps => ?_⟩
  rw [exact.mpr keeps]
  refine ⟨fun positive => ?_, fun negative => ?_⟩
  · have := Int.ediv_nonneg (Int.mul_nonneg positive (Int.natCast_nonneg count))
      (show (0 : Int) ≤ 1024 by decide)
    omega
  · have := Int.mul_nonpos_of_nonpos_of_nonneg negative (Int.natCast_nonneg count)
    omega

/-- After 359 frames without a far end the loudest sample changes its sign. -/
theorem post_gain_wraps :
    ((List.replicate 359 ⟨false, false⟩).foldl Nlp.step .init).far_end_nlp_count = 4102 ∧
      ySub 4102 32767 = -32767 := by
  decide +kernel

/-! ### Limiter -/

def peakTable : List Nat :=
  [0x16, 0x17, 0x19, 0x1a, 0x1c, 0x1d, 0x1f, 0x21, 0x23, 0x25, 0x27, 0x29, 0x2c, 0x2e, 0x31, 0x34,
   0x37, 0x3a, 0x3e, 0x41, 0x45, 0x49, 0x4e, 0x52, 0x57, 0x5c, 0x62, 0x68, 0x6e, 0x74, 0x7b, 0x82,
   0x8a, 0x92, 0x9b, 0xa4, 0xae, 0xb8, 0xc3, 0xcf, 0xdb, 0xe8, 0xf6, 0x104, 0x114, 0x124, 0x135,
   0x148, 0x15b, 0x170, 0x185, 0x19d, 0x1b5, 0x1cf, 0x1ea, 0x207, 0x226, 0x247, 0x269, 0x28e, 0x2b5,
   0x2de, 0x309, 0x337, 0x368, 0x39c, 0x3d2, 0x40c, 0x44a, 0x48b, 0x4d0, 0x519, 0x566, 0x5b8, 0x60e,
   0x66a, 0x6cc, 0x733, 0x7a0, 0x814, 0x88e, 0x910, 0x999, 0xa2b, 0xac5, 0xb68, 0xc15, 0xccd, 0xd8f,
   0xe5d, 0xf36, 0x101d, 0x1112, 0x1215, 0x1327, 0x1449, 0x157d, 0x16c3, 0x181c, 0x198a, 0x1b0d,
   0x1ca8, 0x1e5b, 0x2027, 0x220f, 0x2413, 0x2637, 0x287a, 0x2ae0, 0x2d6b, 0x301b, 0x32f5, 0x35fa,
   0x392d, 0x3c90, 0x4027, 0x43f4, 0x47fb, 0x4c3f, 0x50c3, 0x558c, 0x5a9e, 0x5ffd, 0x65ad, 0x6bb3,
   0x7215, 0x78d7, 0x7fff]

def gainTable : List Nat :=
  [0x16, 0x17, 0x18, 0x1a, 0x1b, 0x1d, 0x1f, 0x20, 0x22, 0x24, 0x27, 0x29, 0x2b, 0x2e, 0x31, 0x33,
   0x36, 0x3a, 0x3d, 0x41, 0x45, 0x49, 0x4d, 0x52, 0x56, 0x5b, 0x61, 0x67, 0x6d, 0x73, 0x7a, 0x81,
   0x89, 0x91, 0x9a, 0xa3, 0xac, 0xb7, 0xc1, 0xcd, 0xd9, 0xe6, 0xf3, 0x102, 0x111, 0x121, 0x132,
   0x145, 0x158, 0x16c, 0x182, 0x199, 0x1b1, 0x1ca, 0x1e6, 0x202, 0x221, 0x241, 0x263, 0x288, 0x2ae,
   0x2d7, 0x302, 0x32f, 0x360, 0x393, 0x3c9, 0x402, 0x43f, 0x480, 0x4c4, 0x50c, 0x559, 0x5aa, 0x600,
   0x65b, 0x6bb, 0x721, 0x78d, 0x800, 0x879, 0x8fa, 0x982, 0xa12, 0xaab, 0xb4d, 0xbf8, 0xcae, 0xd6e,
   0xe3a, 0xf12, 0xff6, 0x10e8, 0x11e9, 0x12f9, 0x1418, 0x1549, 0x168c, 0x17e2, 0x194c, 0x1acc,
   0x1c63, 0x1e11, 0x1fd9, 0x21bc, 0x23bc, 0x25da, 0x2818, 0x2a79, 0x2cfd, 0x2fa7, 0x327a, 0x3578,
   0x38a3, 0x3bfe, 0x3f8c, 0x4350, 0x474d, 0x4b86, 0x5000, 0x54be, 0x59c3, 0x5f15, 0x64b7, 0x6aaf,
   0x7101, 0x77b3, 0x7ecb]

structure DrcPara where
  (rt attack rt1 attack1 : UInt16)
  (LT NT : Int16)

structure Drc where
  (peak gain : Nat)

def Drc.init : Drc := ⟨0, 0x7fff⟩

/-- The seven steps of the search, where `below` compares an entry of the table. -/
def searchSteps (below : Nat → Bool) : Nat → Nat → Nat → Nat → Nat
  | 0, _, _, peak_index => peak_index
  | steps + 1, peak_low, peak_high, peak_index =>
    if below peak_index then
      searchSteps below steps peak_index peak_high ((peak_index + peak_high) / 2)
    else searchSteps below steps peak_low peak_index ((peak_index + peak_low) / 2)

def peakIndex (peak : Nat) : Nat :=
  searchSteps (fun index => peakTable.getD index 0x7fff < peak) 7 0 127 63

def gainIndex (LT NT : Int) (peak_index : Nat) : Int :=
  if peak_index < LT ∧ peak_index > NT then
    if LT - peak_index > 48 then 127 else 79 + (LT - peak_index)
  else if peak_index ≥ LT then if peak_index - LT > 79 then 0 else 79 - (peak_index - LT)
  else 79 - 12

namespace Drc

variable (para : DrcPara) (drc : Drc) (xin : Int16)

def peakDiff : Nat := xin.toInt.natAbs - drc.peak

def peakNext : Nat :=
  (para.attack.toNat * drc.peakDiff xin + drc.peak * 2 ^ 16 - para.rt.toNat * drc.peak) / 2 ^ 16

def index : Int := gainIndex para.LT.toInt para.NT.toInt (peakIndex (drc.peakNext para xin))

def target : Nat := gainTable.getD (drc.index para xin).toNat 0

def gainK : Nat := (if drc.gain < drc.target para xin then para.rt1 else para.attack1).toNat

def limit : Drc where
  peak := drc.peakNext para xin
  gain := (drc.gain * 2 ^ 16 - drc.gainK para xin * drc.gain +
    drc.gainK para xin * drc.target para xin) / 2 ^ 16

/-- Every value that `_aec_drcLimit` computes in a `long`, in its order. -/
def longs : List Int :=
  [xin.toInt.natAbs, xin.toInt.natAbs - drc.peak, para.attack.toNat * drc.peakDiff xin,
    drc.peak * 2 ^ 16, para.attack.toNat * drc.peakDiff xin + drc.peak * 2 ^ 16,
    para.rt.toNat * drc.peak,
    para.attack.toNat * drc.peakDiff xin + drc.peak * 2 ^ 16 - para.rt.toNat * drc.peak,
    drc.gain * 2 ^ 16, drc.gainK para xin * drc.gain,
    drc.gain * 2 ^ 16 - drc.gainK para xin * drc.gain, drc.gainK para xin * drc.target para xin,
    drc.gain * 2 ^ 16 - drc.gainK para xin * drc.gain + drc.gainK para xin * drc.target para xin]

structure Bounded : Prop where
  peak : drc.peak ≤ 32767
  low : 22 ≤ drc.gain
  high : drc.gain ≤ 32767

end Drc

theorem threshold {holds : Nat → Prop} [DecidablePred holds] (down : ∀ i, holds (i + 1) → holds i)
    {last : Nat} (ends : ¬holds last) : ∃ count ≤ last, ∀ i, holds i ↔ i < count := by
  have stops : ∃ i, ¬holds i := ⟨last, ends⟩
  refine ⟨Nat.find stops, Nat.find_min' stops ends, fun i => ⟨fun held => ?_, fun below => ?_⟩⟩
  · refine Nat.lt_of_not_le fun above => Nat.find_spec stops ?_
    exact antitone_nat_of_succ_le (f := holds) down above held
  · exact not_not.mp (Nat.find_min stops below)

/-- The table is ascending, so its comparisons are those with a threshold. -/
theorem peakIndex_eq {peak : Nat} (small : peak ≤ 32767) :
    ∃ count ≤ 127, (∀ index, peakTable.getD index 0x7fff < peak ↔ index < count) ∧
      peakIndex peak = count - 1 := by
  have ascends : ∀ index < 127,
      peakTable.getD index 0x7fff ≤ peakTable.getD (index + 1) 0x7fff := by decide +kernel
  have down (index : Nat) (next : peakTable.getD (index + 1) 0x7fff < peak) :
      peakTable.getD index 0x7fff < peak := by
    by_cases inside : index < 127
    · exact lt_of_le_of_lt (ascends index inside) next
    · rw [getD_eq_getElem?_getD,
        List.getElem?_eq_none (show 128 ≤ index + 1 by omega)] at next
      exact absurd next (not_lt.mpr small)
  obtain ⟨count, least, iff⟩ := @threshold (fun index => peakTable.getD index 0x7fff < peak)
    _ down 127 (not_lt.mpr small)
  refine ⟨count, least, iff, ?_⟩
  have compares : (fun index => decide (peakTable.getD index 0x7fff < peak)) =
      fun index => decide (index < count) := funext fun index => decide_eq_decide.mpr (iff index)
  rw [peakIndex, compares]
  exact (by decide +kernel : ∀ count ≤ 127,
    searchSteps (fun index => decide (index < count)) 7 0 127 63 = count - 1) count least

/-- A mean of two values with weights of sixteen bits lies between them. -/
theorem mean_bounds {low high left right weight : Nat} (small : weight < 2 ^ 16)
    (lower : low ≤ left ∧ low ≤ right) (upper : left ≤ high ∧ right ≤ high) :
    let mean := left * 2 ^ 16 - weight * left + weight * right
    weight * left ≤ left * 2 ^ 16 ∧ mean ≤ high * 2 ^ 16 ∧
      low ≤ mean / 2 ^ 16 ∧ mean / 2 ^ 16 ≤ high := by
  obtain ⟨rest, sum⟩ := Nat.exists_eq_add_of_lt small
  have expand (x : Nat) : x * 2 ^ 16 = weight * x + (rest + 1) * x := by
    rw [← add_mul, ← add_assoc, ← sum, mul_comm]
  have := expand low
  have := expand left
  have := expand high
  have := Nat.mul_le_mul_left (rest + 1) lower.1
  have := Nat.mul_le_mul_left weight lower.2
  have := Nat.mul_le_mul_left (rest + 1) upper.1
  have := Nat.mul_le_mul_left weight upper.2
  omega

section

variable {para : DrcPara} {drc : Drc} {xin : Int16}

theorem Drc.target_bounds : (0 ≤ drc.index para xin ∧ drc.index para xin ≤ 127) ∧
    22 ≤ drc.target para xin ∧ drc.target para xin ≤ 32767 := by
  have range : 0 ≤ drc.index para xin ∧ drc.index para xin ≤ 127 := by
    unfold index gainIndex
    split
    · split <;> omega
    · split
      · split <;> omega
      · omega
  exact ⟨range, (by decide +kernel : ∀ i ≤ 127, 22 ≤ gainTable.getD i 0 ∧
    gainTable.getD i 0 ≤ 32767) _ (by omega)⟩

theorem natAbs_le (xin : Int16) : xin.toInt.natAbs ≤ 32768 := by
  have := xin.le_toInt
  have := xin.toInt_lt
  omega

theorem Drc.gainK_lt (drc : Drc) (para : DrcPara) (xin : Int16) : drc.gainK para xin < 2 ^ 16 :=
  UInt16.toNat_lt _

theorem Drc.Bounded.peak_sum (bounded : drc.Bounded) :
    para.attack.toNat * drc.peakDiff xin + drc.peak * 2 ^ 16 < 2 ^ 31 ∧
      para.rt.toNat * drc.peak ≤ drc.peak * 2 ^ 16 := by
  have size := natAbs_le xin
  have peak := bounded.peak
  have attack : para.attack.toNat ≤ 65535 := le_of_lt_succ para.attack.toNat_lt
  have rt : para.rt.toNat ≤ 65535 := le_of_lt_succ para.rt.toNat_lt
  have := Nat.mul_le_mul_right (drc.peakDiff xin) attack
  have := Nat.mul_le_mul_right drc.peak rt
  unfold peakDiff at *
  omega

theorem Drc.Bounded.limit (bounded : drc.Bounded) : (drc.limit para xin).Bounded := by
  obtain ⟨-, low, high⟩ := @target_bounds para drc xin
  obtain ⟨-, -, least, most⟩ :=
    mean_bounds (drc.gainK_lt para xin) ⟨bounded.low, low⟩ ⟨bounded.high, high⟩
  have sum := (@peak_sum para drc xin bounded).1
  refine ⟨?_, least, most⟩
  change drc.peakNext para xin ≤ 32767
  unfold peakNext
  omega

theorem limiter (para : DrcPara) (samples : List Int16) (xin : Int16) :
    let drc := samples.foldl (Drc.limit para) .init
    let peak := drc.peakNext para xin
    let gain := (drc.limit para xin).gain
    drc.Bounded ∧ (∀ value ∈ drc.longs para xin, -2 ^ 31 ≤ value ∧ value < 2 ^ 31) ∧
      (∀ i < 128, peakTable.getD i 0x7fff < peak → i ≤ peakIndex peak) ∧
      (peakIndex peak = 0 ∨ peakTable.getD (peakIndex peak) 0x7fff < peak) ∧
      (0 ≤ drc.index para xin ∧ drc.index para xin ≤ 127) ∧
      min drc.gain (drc.target para xin) ≤ gain ∧ gain ≤ max drc.gain (drc.target para xin) := by
  intro drc peak gain
  have bounded : drc.Bounded :=
    samples.foldlRecOn (Drc.limit para) ⟨by decide, by decide, by decide⟩
      fun _ bounded _ _ => bounded.limit
  obtain ⟨range, low, high⟩ := @Drc.target_bounds para drc xin
  obtain ⟨count, least, below, found⟩ := peakIndex_eq (@Drc.Bounded.limit para drc xin bounded).peak
  change peakIndex peak = count - 1 at found
  refine ⟨bounded, ?_, fun i _ less => ?_, ?_, range, ?_⟩
  · obtain ⟨sum, decays⟩ := @Drc.Bounded.peak_sum para drc xin bounded
    obtain ⟨less, most, -⟩ :=
      mean_bounds (drc.gainK_lt para xin) ⟨bounded.low, low⟩ ⟨bounded.high, high⟩
    have size := natAbs_le xin
    have peakMost := bounded.peak
    have gainMost := bounded.high
    intro value member
    simp only [Drc.longs, mem_cons, not_mem_nil, or_false] at member
    omega
  · have := (below i).mp less
    omega
  · rw [found]
    by_cases none : count - 1 = 0
    · exact .inl none
    · exact .inr ((below _).mpr (by omega))
  · exact (mean_bounds (drc.gainK_lt para xin) ⟨min_le_left _ _, min_le_right _ _⟩
      ⟨le_max_left _ _, le_max_right _ _⟩).2.2

end

/-! ### Noise floor -/

abbrev Energy := Fin 0x100000000

def Pmax : Energy := 0xffffffff

def noiseWinLen : Nat := 150

/-- What the tracking of the minimum keeps of one band, and `noise_cnt`. -/
structure Floor where
  Pmin_far : Energy
  PLmin_far : Nat → Energy
  Pn_far : Energy
  noise_cnt : Nat

def Floor.init : Floor := ⟨Pmax, fun _ => Pmax, Pmax, 1⟩

def Floor.step (floor : Floor) (Efar : Energy) : Floor :=
  let least := min Efar floor.Pmin_far
  if floor.noise_cnt = noiseWinLen then
    let blocks m := if m < 3 then floor.PLmin_far (m + 1) else least
    ⟨Pmax, blocks, min (min (min (blocks 0) (blocks 1)) (blocks 2)) (blocks 3), 1⟩
  else { floor with Pmin_far := least, noise_cnt := floor.noise_cnt + 1 }

def floorAt (Efar : Nat → Energy) : Nat → Floor
  | 0 => .init
  | n + 1 => (floorAt Efar n).step (Efar n)

def lowest (Efar : Nat → Energy) (first next : Nat) : Energy := (Finset.Ico first next).inf Efar

variable {Efar : Nat → Energy} {first middle next n : Nat}

theorem lowest_append (before : first ≤ middle) (behind : middle ≤ next) :
    lowest Efar first next = min (lowest Efar first middle) (lowest Efar middle next) := by
  unfold lowest
  rw [← Finset.Ico_union_Ico_eq_Ico before behind, Finset.inf_union]

theorem lowest_succ (before : first ≤ n) :
    lowest Efar first (n + 1) = min (Efar n) (lowest Efar first n) := by
  unfold lowest
  rw [Nat.Ico_succ_right_eq_insert_Ico before, Finset.inf_insert]

/-- The block that is filled, the four before it and the minimum of those at its start. -/
structure Tracks (Efar : Nat → Energy) (n : Nat) (floor : Floor) : Prop where
  cnt : floor.noise_cnt = n % 150 + 1
  current : floor.Pmin_far = lowest Efar (n / 150 * 150) n
  blocks : ∀ m < 4, floor.PLmin_far m =
    lowest Efar (n / 150 * 150 + m * 150 - 600) (n / 150 * 150 + m * 150 - 450)
  closed : floor.Pn_far = lowest Efar (n / 150 * 150 - 600) (n / 150 * 150)

theorem lowest_empty (none : next ≤ first) : lowest Efar first next = Pmax := by
  unfold lowest
  rw [Finset.Ico_eq_empty (not_lt.mpr none), Finset.inf_empty]
  rfl

theorem Tracks.step {floor : Floor} (tracks : Tracks Efar n floor) :
    Tracks Efar (n + 1) (floor.step (Efar n)) := by
  obtain ⟨cnt, current, blocks, closed⟩ := tracks
  have grown := @lowest_succ Efar (n / 150 * 150) n (div_mul_le_self n 150)
  rw [← current] at grown
  unfold Floor.step
  rw [← grown]
  unfold noiseWinLen
  split
  · -- the block is full: it becomes the fourth, and the first of the four is given up
    have start : (n + 1) / 150 * 150 = n + 1 := by omega
    have filled : n / 150 * 150 = n + 1 - 150 := by omega
    rw [filled] at blocks ⊢
    constructor
    · dsimp only
      omega
    · rw [start]
      exact (lowest_empty le_rfl).symm
    · intro m few
      rw [start]
      dsimp only
      split
      · rw [blocks (m + 1) (by omega)]
        exact congrArg₂ _ (by omega) (by omega)
      · exact congrArg₂ _ (by omega) (by omega)
    · rw [start, lowest_append (show n + 1 - 600 ≤ n + 1 - 150 by omega) (by omega),
        lowest_append (show n + 1 - 600 ≤ n + 1 - 300 by omega) (by omega),
        lowest_append (show n + 1 - 600 ≤ n + 1 - 450 by omega) (by omega)]
      simp [blocks, Nat.sub_sub]
  · have same : (n + 1) / 150 * 150 = n / 150 * 150 := by omega
    constructor
    · dsimp only
      omega
    · rw [same]
    · rwa [same]
    · rwa [same]

theorem tracks_floorAt (Efar : Nat → Energy) (n : Nat) : Tracks Efar n (floorAt Efar n) := by
  induction n with
  | zero =>
    refine ⟨rfl, (lowest_empty (by decide)).symm, fun m few => ?_, (lowest_empty (by decide)).symm⟩
    exact (lowest_empty (by omega)).symm
  | succ n ih => exact ih.step

theorem noise_floor (Efar : Nat → Energy) (n : Nat) :
    (n < 150 → (floorAt Efar n).Pn_far = 0xffffffff) ∧
      (0 < n → 150 ∣ n →
        IsLeast (Efar '' Set.Ico (n - min n 600) n) (floorAt Efar n).Pn_far) ∧
      (¬150 ∣ n + 1 → (floorAt Efar (n + 1)).Pn_far = (floorAt Efar n).Pn_far) := by
  rw [(tracks_floorAt Efar n).closed, (tracks_floorAt Efar (n + 1)).closed]
  refine ⟨fun early => lowest_empty (by omega), fun pos multiple => ?_, fun inside => ?_⟩
  · rw [Nat.div_mul_cancel multiple, show n - min n 600 = n - 600 by omega]
    constructor
    · obtain ⟨least, within, eq⟩ := Finset.exists_mem_eq_inf (Finset.Ico (n - 600) n)
        (Finset.nonempty_Ico.mpr (by omega)) Efar
      exact ⟨least, Finset.mem_Ico.mp within, eq.symm⟩
    · rintro _ ⟨i, within, rfl⟩
      exact Finset.inf_le (Finset.mem_Ico.mpr within)
  · rw [show (n + 1) / 150 * 150 = n / 150 * 150 by omega]

end Hfirmware.Drvhal.Aec
