/-
The classification of one press.
-/

import Hfirmware.System.Button

namespace Hfirmware.System

open List Nat

/-- The events sent from `info` on, when the timer stops at the last sample. -/
def bnStops (attr : BnAttr) : BnInfo → List Sample → Option (List BnEvent)
  | _, [] => none
  | info, sample :: rest =>
    let ticked := cfgSysBnTimer attr info sample
    if ticked.ended then if rest.isEmpty then some ticked.sent else none
    else (bnStops attr ticked.info rest).map (ticked.sent ++ ·)

def Sample.Pressed (sample : Sample) : Prop := 0 < sample.u16PressNum

instance (sample : Sample) : Decidable sample.Pressed := inferInstanceAs (Decidable (_ < _))

/-- `event` was so of some sample and the samples before it. -/
def Once (event : List Sample → Sample → Prop) (samples : List Sample) : Prop :=
  ∃ before sample after, samples = before ++ sample :: after ∧ event before sample

def releasedRun (samples : List Sample) : Nat :=
  (samples.reverse.takeWhile fun sample => ¬sample.Pressed).length

def Debounced (attr : BnAttr) (samples : List Sample) : Prop :=
  Once (fun before sample => sample.Pressed ∧ attr.u8DebounceNumber ≤ before.length) samples

def Interrupted (attr : BnAttr) (samples : List Sample) : Prop :=
  Once (fun before sample => Debounced attr before ∧ ¬sample.Pressed ∧
    attr.u8DebounceNumber ≤ u16 (releasedRun (before ++ [sample])) ∧
    attr.u16DoubleClickInterval < u16 (releasedRun (before ++ [sample]) * attr.u8DebounceTime))
    samples

def LongHeld (attr : BnAttr) (samples : List Sample) : Prop :=
  Once (fun before sample => Debounced attr before ∧ sample.Pressed ∧ ¬Interrupted attr before ∧
    attr.u16LongPressTime ≤ u16 ((before.length + 1) * attr.u8DebounceTime)) samples

def heldTime (attr : BnAttr) (samples : List Sample) : Nat :=
  (samples.length - releasedRun samples) * attr.u8DebounceTime

section

variable (event : List Sample → Sample → Prop)

theorem once_append_singleton (samples : List Sample) (sample : Sample) :
    Once event (samples ++ [sample]) ↔ Once event samples ∨ event samples sample := by
  constructor
  · rintro ⟨before, found, after, split, holds⟩
    rcases eq_nil_or_concat' after with rfl | ⟨front, last, rfl⟩
    · obtain ⟨rfl, same⟩ := append_inj' split rfl
      exact .inr (singleton_inj.mp same ▸ holds)
    · rw [← cons_append, ← append_assoc] at split
      exact .inl ⟨before, found, front, (append_inj' split rfl).1, holds⟩
  · rintro (⟨before, found, after, rfl, holds⟩ | holds)
    · exact ⟨before, found, after ++ [sample], by rw [append_assoc, cons_append], holds⟩
    · exact ⟨samples, sample, [], rfl, holds⟩

theorem not_once_nil : ¬Once event [] := by
  rintro ⟨before, sample, after, split, -⟩
  exact append_ne_nil_of_right_ne_nil before (cons_ne_nil sample after) split.symm

end

section

variable {attr : BnAttr} {samples : List Sample} {sample : Sample}

theorem releasedRun_pressed (pressed : sample.Pressed) : releasedRun (samples ++ [sample]) = 0 := by
  simp [releasedRun, pressed]

theorem releasedRun_released (released : ¬sample.Pressed) :
    releasedRun (samples ++ [sample]) = releasedRun samples + 1 := by
  simp [releasedRun, released]

theorem releasedRun_le {before after : List Sample} (pressed : sample.Pressed) :
    releasedRun (before ++ sample :: after) ≤ after.length := by
  induction after using reverseRecOn with
  | nil => exact le_of_eq (releasedRun_pressed pressed)
  | append_singleton _ last ih =>
    rw [← cons_append, ← append_assoc, length_append]
    by_cases lastPressed : last.Pressed
    · rw [releasedRun_pressed lastPressed]
      exact Nat.zero_le _
    · rw [releasedRun_released lastPressed]
      exact Nat.add_le_add_right ih 1

theorem Debounced.append (debounced : Debounced attr samples) (rest : List Sample) :
    Debounced attr (samples ++ rest) := by
  obtain ⟨before, pressed, after, rfl, holds⟩ := debounced
  exact ⟨before, pressed, after ++ rest, by rw [append_assoc, cons_append], holds⟩

theorem Interrupted.debounced (interrupted : Interrupted attr samples) :
    Debounced attr samples := by
  obtain ⟨_, gap, after, rfl, debounced, -⟩ := interrupted
  exact debounced.append (gap :: after)

theorem LongHeld.debounced (long : LongHeld attr samples) : Debounced attr samples := by
  obtain ⟨_, pressed, after, rfl, debounced, -⟩ := long
  exact debounced.append (pressed :: after)

theorem longHeld_released (released : ¬sample.Pressed) :
    LongHeld attr (samples ++ [sample]) ↔ LongHeld attr samples := by
  refine (once_append_singleton _ samples sample).trans (or_iff_left fun pressed => ?_)
  exact released pressed.2.1

theorem interrupted_append_singleton :
    Interrupted attr (samples ++ [sample]) ↔ Interrupted attr samples ∨
      Debounced attr samples ∧ ¬sample.Pressed ∧
        attr.u8DebounceNumber ≤ u16 (releasedRun (samples ++ [sample])) ∧
        attr.u16DoubleClickInterval <
          u16 (releasedRun (samples ++ [sample]) * attr.u8DebounceTime) :=
  once_append_singleton _ samples sample

theorem interrupted_pressed (pressed : sample.Pressed) :
    Interrupted attr (samples ++ [sample]) ↔ Interrupted attr samples := by
  refine interrupted_append_singleton.trans (or_iff_left fun gap => ?_)
  exact gap.2.1 pressed

theorem not_longHeld_of_heldTime_lt (short : heldTime attr samples < attr.u16LongPressTime) :
    ¬LongHeld attr samples := by
  rintro ⟨before, sample, after, rfl, -, pressed, -, _⟩
  have since : releasedRun (before ++ sample :: after) ≤ after.length := releasedRun_le pressed
  have within : (before.length + 1) * attr.u8DebounceTime ≤
      heldTime attr (before ++ sample :: after) := by
    refine Nat.mul_le_mul_right _ ?_
    rw [length_append, length_cons]
    omega
  have reduced : u16 ((before.length + 1) * attr.u8DebounceTime) ≤ _ := mod_le _ _
  omega

end

def BnEvent.IsClick (event : BnEvent) : Prop :=
  event.bnType = .singleClick ∨ event.bnType = .doubleClick

instance (event : BnEvent) : Decidable event.IsClick := inferInstanceAs (Decidable (_ ∨ _))

def BnEvent.IsLong (event : BnEvent) : Prop :=
  event.bnType = .longPress ∨ event.bnType = .verylongPress

def clicks (sent : List BnEvent) : Nat := sent.countP fun event => event.IsClick

def LongSent (sent : List BnEvent) : Prop := ∃ event ∈ sent, event.IsLong

structure Undecided (attr : BnAttr) (samples : List Sample) (info : BnInfo) : Prop where
  waiting : info.Waiting
  timer : info.u16TimerCnt = samples.length
  short : samples.length ≤ 319
  valid : info.u8ValidCnt < 2 ^ 8
  multi : info.u8MultiClickCnt = 0
  unsent : info.u8LPressSend = false
  unseen : ¬Debounced attr samples

structure Pressing (attr : BnAttr) (samples : List Sample) (info : BnInfo)
    (sent : List BnEvent) : Prop where
  down : info.Down
  one : info.u8PressNum = 1
  timer : info.u16TimerCnt = u16 samples.length
  invalid : info.u16InvalidCnt = u16 (releasedRun samples)
  debounced : Debounced attr samples
  multi : info.u8MultiClickCnt = 0 ∨ info.u8MultiClickCnt = 1 ∨ info.u8MultiClickCnt = 0x81
  gap : info.u8MultiClickCnt = 0 ↔ ¬Interrupted attr samples
  long : info.u8LPressSend = true ↔ LongHeld attr samples
  unclicked : clicks sent = 0
  longSent : LongSent sent ↔ LongHeld attr samples

/-- A press of one key is over: a click was sent when the 16-bit clock is below
the long press time, and a long press when the key was held for long. -/
structure Stopped (attr : BnAttr) (samples : List Sample) (sent : List BnEvent) : Prop where
  clicked : clicks sent =
    if u16 (samples.length * attr.u8DebounceTime) < attr.u16LongPressTime then 1 else 0
  longSent : LongSent sent ↔ LongHeld attr samples

theorem clicks_append (first second : List BnEvent) :
    clicks (first ++ second) = clicks first + clicks second :=
  countP_append

theorem longSent_append (first second : List BnEvent) :
    LongSent (first ++ second) ↔ LongSent first ∨ LongSent second := by
  simp only [LongSent, mem_append, or_and_right, exists_or]

theorem longSent_ite (due : Prop) [Decidable due] (event : BnEvent) :
    LongSent (if due then [event] else []) ↔ due ∧ event.IsLong := by
  by_cases holds : due <;> simp [LongSent, holds]

variable {more : List BnEvent}

section

variable {attr : BnAttr} {samples : List Sample} {info : BnInfo} {sent : List BnEvent}
  {sample : Sample}

theorem Undecided.start (attr : BnAttr) : Undecided attr [] (bnStarted attr) :=
  ⟨bnStarted_waiting attr, rfl, Nat.zero_le _, Nat.two_pow_pos 8, rfl, rfl, not_once_nil _⟩

section

variable (undecided : Undecided attr samples info)
include undecided

theorem Undecided.counted_timer : info.counted.u16TimerCnt = samples.length + 1 := by
  have short := undecided.short
  change u16 (info.u16TimerCnt + 1) = _
  rw [undecided.timer]
  exact u16_of_lt (by omega)

theorem Undecided.countPressed_multi :
    (countPressed attr info.counted sample).u8MultiClickCnt = 0 := by
  change (if info.u8MultiClickCnt = 1 then _ else info.u8MultiClickCnt) = 0
  rw [undecided.multi]
  rfl

theorem Undecided.decided (pressed : sample.Pressed) (single : sample.u16PressNum ≤ 1)
    (late : info.counted.u16TimerCnt > attr.u8DebounceNumber) :
    Pressing attr (samples ++ [sample]) { countPressed attr info.counted sample with
        u8Sample := true
        u8PressNum := u8 sample.u16PressNum
        u32PressMap := sample.u32PressMap }
      [⟨sample.u32PressMap, .pressDown⟩] := by
  have timer := undecided.counted_timer
  have multi := @Undecided.countPressed_multi attr samples info sample undecided
  have short := undecided.short
  have one : u8 sample.u16PressNum = 1 := by
    rw [u8_pressNum]
    exact le_antisymm single pressed
  have noLong : ¬LongHeld attr (samples ++ [sample]) := by
    intro long
    rcases (once_append_singleton _ samples sample).mp long with earlier | now
    · exact undecided.unseen (LongHeld.debounced earlier)
    · exact undecided.unseen now.1
  refine ⟨⟨?_, rfl⟩, one, ?_, ?_, ?_, .inl multi, ?_, ?_, rfl, ?_⟩
  · exact lt_of_lt_of_eq one_pos one.symm
  · refine timer.trans ?_
    rw [length_append]
    exact (u16_of_lt (by omega)).symm
  · rw [releasedRun_pressed pressed]
    rfl
  · refine (once_append_singleton _ samples sample).mpr (.inr ⟨pressed, ?_⟩)
    omega
  · refine iff_of_true multi fun interrupted => ?_
    exact undecided.unseen ((interrupted_pressed pressed).mp interrupted).debounced
  · refine iff_of_false (fun sent => ?_) noLong
    exact Bool.false_ne_true (undecided.unsent.symm.trans sent)
  · refine iff_of_false ?_ noLong
    rintro ⟨_, member, long⟩
    obtain rfl := mem_singleton.mp member
    rcases long with same | same <;> cases same

theorem Undecided.pressed (pressed : sample.Pressed) (single : sample.u16PressNum ≤ 1)
    (running : (cfgSysBnTimer attr info sample).ended = false) :
    let after := cfgSysBnTimer attr info sample
    (Undecided attr (samples ++ [sample]) after.info ∧ after.sent = []) ∨
      Pressing attr (samples ++ [sample]) after.info
        after.sent := by
  have timer := undecided.counted_timer
  have still := @BnInfo.Waiting.countPressed attr info sample undecided.waiting
  have multi := @Undecided.countPressed_multi attr samples info sample undecided
  rw [cfgSysBnTimer_waiting_pressed undecided.waiting pressed] at running ⊢
  unfold debouncePressed at running ⊢
  by_cases late : info.counted.u16TimerCnt > attr.u8DebounceNumber
  · have decides : (countPressed attr info.counted sample).u16TimerCnt > attr.u8DebounceNumber ∧
        (countPressed attr info.counted sample).u8PressNum = 0 := ⟨late, still.pressNum⟩
    rw [if_pos decides] at running ⊢
    by_cases enough : (countPressed attr info.counted sample).u8ValidCnt >
        (countPressed attr info.counted sample).u16TimerCnt * 7 / 10
    · rw [if_pos enough] at running ⊢
      exact .inr (undecided.decided pressed single late)
    · rw [if_neg enough] at running
      cases running
  · have tooEarly : ¬((countPressed attr info.counted sample).u16TimerCnt >
        attr.u8DebounceNumber ∧ (countPressed attr info.counted sample).u8PressNum = 0) :=
      fun both => late both.1
    have small := attr.debounceNumber_lt
    rw [if_neg tooEarly]
    refine .inl ⟨⟨still, ?_, ?_, mod_lt _ (Nat.two_pow_pos 8), multi, undecided.unsent, ?_⟩,
      rfl⟩
    · rwa [length_append]
    · rw [length_append, length_singleton]
      omega
    · intro debounced
      rcases (once_append_singleton _ samples sample).mp debounced with earlier | now
      · exact undecided.unseen earlier
      · have enough := now.2
        omega

theorem Undecided.released (released : ¬sample.Pressed)
    (running : (cfgSysBnTimer attr info sample).ended = false) :
    Undecided attr (samples ++ [sample]) (cfgSysBnTimer attr info sample).info ∧
      (cfgSysBnTimer attr info sample).sent = [] := by
  have timer := undecided.counted_timer
  have valid := undecided.valid
  have small := attr.debounceNumber_lt
  rw [cfgSysBnTimer_waiting_released undecided.waiting released] at running ⊢
  unfold debounceReleased at running ⊢
  by_cases invalid : info.released.u16TimerCnt > attr.u8DebounceNumber ∧
      info.released.u8PressNum = 0 ∧
      info.released.u8ValidCnt < info.released.u16TimerCnt * 8 / 10
  · rw [if_pos invalid] at running
    cases running
  · rw [if_neg invalid]
    refine ⟨⟨⟨undecided.waiting.pressNum, undecided.waiting.sample⟩, ?_, ?_, valid,
      undecided.multi, undecided.unsent, ?_⟩, rfl⟩
    · rwa [length_append]
    · rw [length_append, length_singleton]
      have few : attr.u8DebounceNumber < samples.length + 1 →
          (samples.length + 1) * 8 / 10 ≤ info.u8ValidCnt := by
        intro late
        rw [← timer] at late ⊢
        exact not_lt.mp fun fewer => invalid ⟨late, undecided.waiting.pressNum, fewer⟩
      omega
    · intro debounced
      rcases (once_append_singleton _ samples sample).mp debounced with earlier | now
      · exact undecided.unseen earlier
      · exact released now.1

end

/-! #### Ticks of a debounced press -/

theorem Pressing.counted_timer (pressing : Pressing attr samples info sent) :
    info.counted.u16TimerCnt = u16 (samples ++ [sample]).length := by
  change u16 (info.u16TimerCnt + 1) = _
  rw [pressing.timer, u16_u16_add, length_append]
  rfl

def LongDue (attr : BnAttr) (info : BnInfo) : Prop :=
  (info.u8MultiClickCnt = 0 ∧ info.u8Sample = true) ∧
    attr.u16LongPressTime ≤ u16 (info.u16TimerCnt * attr.u8DebounceTime)

theorem identifyHeld_lPressSend (attr : BnAttr) (info : BnInfo) :
    (identifyHeld attr info).1.u8LPressSend ↔ info.u8LPressSend ∨ LongDue attr info := by
  unfold identifyHeld LongDue
  split
  · rename_i held
    simp only [Bool.or_eq_true, decide_eq_true_eq, ge_iff_le, and_iff_right held]
    cases info.u8LPressSend <;> simp
  · rename_i notHeld
    simp only [notHeld, false_and, or_false]

theorem identifyHeld_clicks (attr : BnAttr) (info : BnInfo) :
    clicks (identifyHeld attr info).2 = 0 := by
  unfold identifyHeld
  split
  · dsimp only
    split <;> split <;> split <;> rfl
  · rfl

theorem identifyHeld_longSent (order : attr.u16LongPressTime < attr.u16VeryLongPressTime)
    (info : BnInfo) :
    info.u8LPressSend ∨ LongSent (identifyHeld attr info).2 ↔
      info.u8LPressSend ∨ LongDue attr info := by
  unfold identifyHeld LongDue
  split
  · rename_i held
    rw [longSent_append, longSent_append, longSent_ite, longSent_ite, longSent_ite,
      and_iff_right held]
    -- A very long press is also a long one.
    generalize u16 (info.u16TimerCnt * attr.u8DebounceTime) = time
    have also : attr.u16VeryLongPressTime ≤ time → attr.u16LongPressTime ≤ time := by omega
    cases info.u8LPressSend <;> simp [BnEvent.IsLong]
    exact fun _ veryLong => also veryLong
  · rename_i notHeld
    have none : ¬LongSent [] := by
      rintro ⟨_, member, -⟩
      cases member
    simp only [notHeld, none, false_and]

section

variable (pressing : Pressing attr samples info sent)
include pressing

theorem Pressing.countPressed_multi :
    (countPressed attr info.counted sample).u8MultiClickCnt = 0 ∧ info.u8MultiClickCnt = 0 ∨
      (countPressed attr info.counted sample).u8MultiClickCnt = 0x81 ∧
        info.u8MultiClickCnt ≠ 0 := by
  have counted : (countPressed attr info.counted sample).u8MultiClickCnt =
      if info.u8MultiClickCnt = 1 then info.u8MultiClickCnt ||| 0x80
      else info.u8MultiClickCnt := rfl
  rcases pressing.multi with multi | multi | multi <;>
    · rw [counted, multi]
      decide

theorem Pressing.pressed (pressed : sample.Pressed) (single : sample.u16PressNum ≤ 1)
    (order : attr.u16LongPressTime < attr.u16VeryLongPressTime) :
    let after := cfgSysBnTimer attr info sample
    after.ended = false ∧ Pressing attr (samples ++ [sample]) after.info (sent ++ after.sent) := by
  have down : (countPressed attr info.counted sample).Down := pressing.down.countPressed pressed
  have one : (countPressed attr info.counted sample).u8PressNum = 1 := by
    refine (if_neg fun more => ?_).trans pressing.one
    have bigger : sample.u16PressNum > info.u8PressNum := more.2
    have same := pressing.one
    omega
  have multi := @Pressing.countPressed_multi attr samples info sent sample pressing
  have same : (countPressed attr info.counted sample).u8MultiClickCnt = 0 ↔
      info.u8MultiClickCnt = 0 := by
    rcases multi with ⟨none, before⟩ | ⟨second, before⟩
    · exact iff_of_true none before
    · refine iff_of_false ?_ before
      rw [second]
      decide
  have due : LongHeld attr samples ∨ LongDue attr (countPressed attr info.counted sample) ↔
      LongHeld attr (samples ++ [sample]) := by
    refine Iff.trans (or_congr_right ?_) (once_append_singleton _ samples sample).symm
    have timer : (countPressed attr info.counted sample).u16TimerCnt =
        u16 (samples.length + 1) := by
      have counted := @Pressing.counted_timer attr samples info sent sample pressing
      rwa [length_append] at counted
    unfold LongDue
    rw [timer, u16_u16_mul, same, pressing.gap]
    exact ⟨fun ⟨⟨first, _⟩, late⟩ => ⟨pressing.debounced, pressed, first, late⟩,
      fun ⟨_, _, first, late⟩ => ⟨⟨first, down.sample⟩, late⟩⟩
  obtain ⟨timer, invalid, clicksKept, number, -⟩ :=
    identifyHeld_frame attr (countPressed attr info.counted sample)
  rw [cfgSysBnTimer_down_pressed pressing.down pressed]
  refine ⟨rfl, identifyHeld_down down, number.trans one, timer.trans pressing.counted_timer, ?_,
    pressing.debounced.append [sample], ?_, ?_, ?_, ?_, ?_⟩
  · rwa [releasedRun_pressed pressed]
  · rw [clicksKept]
    rcases multi with ⟨none, -⟩ | ⟨second, -⟩
    · exact .inl none
    · exact .inr (.inr second)
  · rw [clicksKept, same, pressing.gap, interrupted_pressed pressed]
  · rw [identifyHeld_lPressSend, ← due, ← pressing.long]
    exact Iff.rfl
  · rw [clicks_append, pressing.unclicked, identifyHeld_clicks]
  · have sends := identifyHeld_longSent order (countPressed attr info.counted sample)
    rwa [longSent_append, pressing.longSent, ← pressing.long, ← due, ← pressing.long]

theorem Pressing.stopped (released : ¬sample.Pressed) (clicked : clicks more =
      if u16 ((samples ++ [sample]).length * attr.u8DebounceTime) < attr.u16LongPressTime then 1
      else 0) (noLong : ∀ event ∈ more, ¬event.IsLong) :
    Stopped attr (samples ++ [sample]) (sent ++ more) := by
  refine ⟨?_, ?_⟩
  · rwa [clicks_append, pressing.unclicked, zero_add]
  · rw [longSent_append, longHeld_released released, ← pressing.longSent]
    refine or_iff_left ?_
    rintro ⟨event, member, long⟩
    exact noLong event member long

theorem Pressing.released (released : ¬sample.Pressed)
    (order : attr.u16LongPressTime < attr.u16VeryLongPressTime) :
    if (cfgSysBnTimer attr info sample).ended then
      Stopped attr (samples ++ [sample]) (sent ++ (cfgSysBnTimer attr info sample).sent)
    else
      Pressing attr (samples ++ [sample]) (cfgSysBnTimer attr info sample).info
        (sent ++ (cfgSysBnTimer attr info sample).sent) := by
  have timer : info.released.u16TimerCnt = u16 (samples ++ [sample]).length :=
    pressing.counted_timer
  have invalid : info.released.u16InvalidCnt = u16 (releasedRun (samples ++ [sample])) := by
    change u16 (info.u16InvalidCnt + 1) = _
    rw [pressing.invalid, u16_u16_add, releasedRun_released released]
  have long := pressing.long.trans (longHeld_released released).symm
  have longSent : LongSent (sent ++ []) ↔ LongHeld attr (samples ++ [sample]) := by
    rw [append_nil, longHeld_released released]
    exact pressing.longSent
  have unclicked : clicks (sent ++ []) = 0 := by
    rw [append_nil]
    exact pressing.unclicked
  rw [cfgSysBnTimer_down_released pressing.down released]
  split
  · next enough =>
    have ended := @pressActionOver_one attr info.released pressing.one order
    rw [timer, invalid, u16_u16_mul, u16_u16_mul] at ended
    rcases ended with ⟨late, same⟩ | ⟨early, click, isClick, same⟩ | ⟨first, same⟩
    · rw [same]
      refine pressing.stopped released ?_ ?_
      · rw [if_neg (not_lt.mpr late)]
        rfl
      · simp [bnTimerOver, BnEvent.IsLong]
    · rw [same]
      refine pressing.stopped released ?_ ?_
      · rw [if_pos early]
        rcases isClick with rfl | rfl <;> rfl
      · rcases isClick with rfl | rfl <;> simp [bnTimerOver, BnEvent.IsLong]
    · rw [same]
      refine ⟨⟨pressing.down.pressNum, pressing.down.sample⟩, pressing.one, rfl, rfl,
        pressing.debounced.append [sample], ?_, ?_, long, unclicked, longSent⟩
      · split
        · exact .inr (.inl rfl)
        · exact pressing.multi
      · have snoc := @interrupted_append_singleton attr samples sample
        split
        · next gapped =>
          refine iff_of_false (by decide : ¬(1 : BitVec 8) = 0) (not_not_intro (snoc.mpr (.inr ?_)))
          exact ⟨pressing.debounced, released, invalid ▸ enough, gapped⟩
        · next gapped =>
          refine pressing.gap.trans (not_congr (snoc.trans (or_iff_left fun gap => ?_)).symm)
          exact gapped gap.2.2.2
  · next enough =>
    refine ⟨⟨pressing.down.pressNum, pressing.down.sample⟩, pressing.one, timer, invalid,
      pressing.debounced.append [sample], pressing.multi, ?_, long, unclicked, longSent⟩
    refine pressing.gap.trans (not_congr (Iff.symm ?_))
    refine interrupted_append_singleton.trans (or_iff_left fun gap => ?_)
    exact enough (invalid ▸ gap.2.2.1)

end

end

/-! ### Whole presses -/

section

variable {attr : BnAttr} {samples : List Sample} {info : BnInfo} {sent : List BnEvent}

def Following (attr : BnAttr) (samples : List Sample) (info : BnInfo) (sent : List BnEvent) :
    Prop :=
  Undecided attr samples info ∧ sent = [] ∨ Pressing attr samples info sent

section

variable (following : Following attr samples info sent)
  (order : attr.u16LongPressTime < attr.u16VeryLongPressTime)
include following order

theorem Following.tick {sample : Sample} (single : sample.u16PressNum ≤ 1) :
    if (cfgSysBnTimer attr info sample).ended then
      sent ++ (cfgSysBnTimer attr info sample).sent = [] ∨
        Stopped attr (samples ++ [sample]) (sent ++ (cfgSysBnTimer attr info sample).sent)
    else
      Following attr (samples ++ [sample]) (cfgSysBnTimer attr info sample).info
        (sent ++ (cfgSysBnTimer attr info sample).sent) := by
  rcases following with ⟨undecided, rfl⟩ | pressing
  · cases ended : (cfgSysBnTimer attr info sample).ended with
    | true =>
      rw [if_pos rfl, cfgSysBnTimer_waiting_over undecided.waiting ended]
      exact .inl rfl
    | false =>
      by_cases pressed : sample.Pressed
      · exact undecided.pressed pressed single ended
      · exact .inl (undecided.released pressed ended)
  · by_cases pressed : sample.Pressed
    · obtain ⟨running, later⟩ := pressing.pressed pressed single order
      rw [running]
      exact .inr later
    · have after := pressing.released pressed order
      split_ifs at after ⊢ <;> exact .inr after

theorem Following.stops {rest : List Sample} (single : ∀ sample ∈ rest, sample.u16PressNum ≤ 1)
    (stops : bnStops attr info rest = some more) :
    sent ++ more = [] ∨ Stopped attr (samples ++ rest) (sent ++ more) := by
  induction rest generalizing samples info sent more with
  | nil => cases stops
  | cons sample rest ih =>
    have after := following.tick order (single sample (.head _))
    rw [bnStops] at stops
    cases ended : (cfgSysBnTimer attr info sample).ended with
    | true =>
      rw [ended, if_pos rfl] at after stops
      cases rest with
      | nil => exact Option.some.inj stops ▸ after
      | cons => cases stops
    | false =>
      rw [ended] at after stops
      obtain ⟨_, tailStops, rfl⟩ := Option.map_eq_some_iff.mp stops
      rw [← append_assoc, append_cons]
      exact ih after (fun other member => single other (.tail _ member)) tailStops

end

end

/-- What a press should end in: exactly one of a click and a long press, and a
click only when the key was held for less than the long press time. -/
structure Classified (attr : BnAttr) (samples : List Sample) (sent : List BnEvent) : Prop where
  exactlyOne : clicks sent = 1 ∧ ¬LongSent sent ∨ clicks sent = 0 ∧ LongSent sent
  shortClick : 0 < clicks sent → heldTime attr samples < attr.u16LongPressTime

theorem classified_iff (attr : BnAttr) (samples : List Sample) (sent : List BnEvent)
    (order : attr.u16LongPressTime < attr.u16VeryLongPressTime)
    (single : ∀ sample ∈ samples, sample.u16PressNum ≤ 1)
    (stops : bnStops attr (bnStarted attr) samples = some sent)
    (down : ∃ event ∈ sent, event.bnType = .pressDown) :
    Classified attr samples sent ↔ heldTime attr samples < attr.u16LongPressTime ∧
          u16 (samples.length * attr.u8DebounceTime) < attr.u16LongPressTime ∨
        LongHeld attr samples ∧
          attr.u16LongPressTime ≤ u16 (samples.length * attr.u8DebounceTime) := by
  have stopped : Stopped attr samples sent := by
    refine (Following.stops (.inl ⟨Undecided.start attr, rfl⟩) order single stops).resolve_left ?_
    rintro rfl
    obtain ⟨event, member, -⟩ := down
    cases member
  have notBoth := @not_longHeld_of_heldTime_lt attr samples
  have clicked := stopped.clicked
  split at clicked
  · next early =>
    constructor
    · intro classified
      exact .inl ⟨classified.shortClick (by omega), early⟩
    · rintro (⟨short, -⟩ | ⟨-, _⟩)
      · refine ⟨.inl ⟨clicked, fun long => ?_⟩, fun _ => short⟩
        exact notBoth short (stopped.longSent.mp long)
      · omega
  · next early =>
    constructor
    · intro classified
      rcases classified.exactlyOne with ⟨one, -⟩ | ⟨-, long⟩
      · omega
      · exact .inr ⟨stopped.longSent.mp long, not_lt.mp early⟩
    · rintro (⟨-, onTime⟩ | ⟨long, -⟩)
      · exact absurd onTime early
      · exact ⟨.inr ⟨clicked, stopped.longSent.mpr long⟩, fun some => by omega⟩

theorem classified_short_press :
    Classified oneKeyAttr (List.replicate 20 keyDown ++ List.replicate 81 keyUp)
      [⟨0x10, .pressDown⟩, ⟨0x10, .pressRelease⟩, ⟨0x10, .singleClick⟩] := by
  refine (classified_iff oneKeyAttr _ _ (by decide) ?_ (by decide +kernel)
    ⟨_, .head _, rfl⟩).mpr (.inl ⟨by decide +kernel, by decide +kernel⟩)
  intro _ member
  rcases mem_append.mp member with pressed | released
  · rw [eq_of_mem_replicate pressed]
    decide
  · rw [eq_of_mem_replicate released]
    decide

/-- A press of one second: the wait for a second click reaches the long press
time, and the press ends with neither click nor long press. -/
theorem not_classified_one_second : bnStops oneKeyAttr (bnStarted oneKeyAttr)
      (List.replicate 100 keyDown ++ List.replicate 50 keyUp) =
        some [⟨0x10, .pressDown⟩, ⟨0x10, .pressRelease⟩] ∧
    ¬Classified oneKeyAttr (List.replicate 100 keyDown ++ List.replicate 50 keyUp)
      [⟨0x10, .pressDown⟩, ⟨0x10, .pressRelease⟩] := by
  refine ⟨by decide +kernel, fun classified => ?_⟩
  rcases classified.exactlyOne with ⟨one, -⟩ | ⟨-, event, member, long⟩
  · cases one
  · simp only [mem_cons, not_mem_nil, or_false] at member
    rcases member with rfl | rfl <;> rcases long with same | same <;> cases same

end Hfirmware.System
