/-
The search of the FM receiver for a channel: where it ends, and the signal it ends at.
-/

import Hfirmware.Player.FmTable

namespace Hfirmware.Player.Fm

open List Para

/-! ### The way around the band -/

/-- How far a search in the direction is from the end of the band that it wraps to. -/
def Para.passed (para : Para) (next : Bool) (frequency : Int) : Int :=
  if next then frequency - para.freq_min else para.freq_max - frequency

def Para.signed (para : Para) (next : Bool) : Int :=
  if next then para.freq_step else -para.freq_step

abbrev Para.onward (para : Para) (next : Bool) (frequency : Int) : Int :=
  wrap para (frequency + para.signed next)

/-- How far it still has to go until it is back at its start. -/
def Para.ahead (para : Para) (next : Bool) (start frequency : Int) : Int :=
  if para.passed next start ≤ para.passed next frequency then
    para.freq_max - para.freq_min - para.passed next frequency + para.freq_step +
      para.passed next start
  else para.passed next start - para.passed next frequency

theorem passed_bounds {para : Para} {frequency : Int} (within : InRange para frequency)
    (next : Bool) : 0 ≤ para.passed next frequency ∧
      para.passed next frequency ≤ para.freq_max - para.freq_min := by
  obtain ⟨below, above⟩ := within
  unfold passed
  split <;> omega

section

variable {para : Para} {next : Bool} {start frequency : Int} (step : 0 < para.freq_step)
  (within : InRange para frequency)
include step within

theorem onward_spec : InRange para (para.onward next frequency) ∧
    para.passed next (para.onward next frequency) =
      if para.passed next frequency + para.freq_step ≤ para.freq_max - para.freq_min then
        para.passed next frequency + para.freq_step
      else 0 := by
  obtain ⟨below, above⟩ := within
  unfold Para.onward wrap passed signed InRange
  cases next <;> simp only [if_true, Bool.false_eq_true, if_false] <;> split_ifs <;> omega

end

/-- The frequencies that a search tunes to from `frequency` on. -/
structure Probes (para : Para) (next : Bool) (start frequency : Int) (probed : List Int) :
    Prop where
  once : probed.Nodup
  inside : ∀ other ∈ probed, InRange para other
  nearer : ∀ other ∈ probed, para.ahead next start other ≤ para.ahead next start frequency

theorem Probes.one {para : Para} {next : Bool} {start frequency : Int}
    (within : InRange para frequency) : Probes para next start frequency [frequency] :=
  ⟨pairwise_singleton _ _, fun _ member => mem_singleton.mp member ▸ within,
    fun _ member => mem_singleton.mp member ▸ Int.le_refl _⟩

theorem Probes.cons {para : Para} {next : Bool} {start frequency onward : Int} {probed : List Int}
    (within : InRange para frequency) (probes : Probes para next start onward probed)
    (less : para.ahead next start onward < para.ahead next start frequency) :
    Probes para next start frequency (frequency :: probed) := by
  have later := fun other member => Int.lt_of_le_of_lt (probes.nearer other member) less
  refine ⟨nodup_cons.mpr ⟨fun again => ?_, probes.once⟩, ?_, ?_⟩
  · exact Int.lt_irrefl _ (later frequency again)
  · exact forall_mem_cons.mpr ⟨within, probes.inside⟩
  · exact forall_mem_cons.mpr ⟨Int.le_refl _, fun other member =>
      Int.le_of_lt (later other member)⟩

section

variable {next : Bool} {start : Int} {fm : Receiver}

/-- Past the start, or on the grid of the end of the band, and so never at the start. -/
def Misses (para : Para) (next : Bool) (start frequency : Int) : Prop :=
  para.passed next start ≤ para.passed next frequency ∨
    para.freq_step ∣ para.passed next frequency

theorem Misses.onward {para : Para} {frequency : Int} (step : 0 < para.freq_step)
    (within : InRange para frequency) (inside : InRange para start)
    (off : ¬para.freq_step ∣ para.passed next start)
    (misses : Misses para next start frequency) :
    Misses para next start (para.onward next frequency) ∧ para.onward next frequency ≠ start := by
  have moved := (@onward_spec para next frequency step within).2
  have bounds := passed_bounds inside next
  unfold Misses at *
  split at moved
  · rw [moved]
    rcases misses with past | on
    · refine ⟨.inl (by omega), fun same => ?_⟩
      rw [same] at moved
      omega
    · have still := Int.dvd_add on (Int.dvd_refl para.freq_step)
      refine ⟨.inr still, fun same => off ?_⟩
      rw [same] at moved
      exact moved ▸ still
  · rw [moved]
    refine ⟨.inr (Int.dvd_zero _), fun same => off ?_⟩
    rw [same] at moved
    exact moved ▸ Int.dvd_zero _

end

/-- The last three readings, or the zeros that the search starts with. -/
structure Remembers (scan : Scan) (read : List Point) : Prop where
  points : ∃ rest, read ++ List.replicate 3 ⟨0, 0, 0⟩ = scan.p2 :: scan.p1 :: scan.p0 :: rest
  index : scan.index = min 3 read.length

theorem Remembers.next {scan : Scan} {read : List Point} (remembers : Remembers scan read)
    (point : Point) (frequency : Int) :
    Remembers ⟨scan.p1, scan.p2, point, scan.counted, frequency⟩ (point :: read) := by
  obtain ⟨⟨rest, points⟩, index⟩ := remembers
  refine ⟨⟨scan.p0 :: rest, congrArg (point :: ·) points⟩, ?_⟩
  dsimp only
  rw [length_cons]
  unfold Scan.counted
  split <;> omega

end Hfirmware.Player.Fm
