/-
A key that stays down. Once the press is debounced every tick compares the 16-bit time
since the press with that of the last repeat.
-/

import Hfirmware.System.Button
import Hfirmware.WrappingRepeat

namespace Hfirmware.System

open List Nat WrappingRepeat

/-- The fields have the widths of `hs_cfg_bn_attr_t`, and `hs_cfg_sysBnInit` has replaced
a tick length of zero. -/
structure BnAttr.Typed (attr : BnAttr) : Prop where
  moves : 0 < attr.u8DebounceTime
  tick : attr.u8DebounceTime < 2 ^ 8
  long : attr.u16LongPressTime < 2 ^ 16
  veryLong : attr.u16VeryLongPressTime < 2 ^ 16
  gap : attr.u16RepeatTime < 2 ^ 16

def heldInfo (attr : BnAttr) (samples : Nat → Sample) : Nat → BnInfo
  | 0 => bnStarted attr
  | t + 1 => (cfgSysBnTimer attr (heldInfo attr samples t) (samples t)).info

def heldTick (attr : BnAttr) (samples : Nat → Sample) (t : Nat) : Ticked :=
  cfgSysBnTimer attr (heldInfo attr samples t) (samples t)

def SentAt (attr : BnAttr) (samples : Nat → Sample) (bnType : BnType) (t : Nat) : Prop :=
  ∃ event ∈ (heldTick attr samples t).sent, event.bnType = bnType

def sentCount (attr : BnAttr) (samples : Nat → Sample) (bnType : BnType) : Nat → Nat
  | 0 => 0
  | t + 1 => sentCount attr samples bnType t +
      (heldTick attr samples t).sent.countP fun event => event.bnType = bnType

def repeatTicks (attr : BnAttr) : Nat := attr.u16RepeatTime / attr.u8DebounceTime + 1

/-- A hold of `ticks` ticks sends its repeats on time, and each long press event once if
the key is held that long. -/
structure HoldContract (attr : BnAttr) (samples : Nat → Sample) (ticks : Nat) : Prop where
  quiet : ∀ t s, SentAt attr samples .keyRepeat t → 0 < s → s < repeatTicks attr →
    t + s < ticks → ¬SentAt attr samples .keyRepeat (t + s)
  next : ∀ t, SentAt attr samples .keyRepeat t → t + repeatTicks attr < ticks →
    SentAt attr samples .keyRepeat (t + repeatTicks attr)
  long : sentCount attr samples .longPress ticks =
    if attr.u8DebounceNumber + 1 < ticks ∧ attr.u16LongPressTime ≤ ticks * attr.u8DebounceTime
    then 1 else 0
  veryLong : sentCount attr samples .verylongPress ticks =
    if attr.u8DebounceNumber + 1 < ticks ∧ attr.u16VeryLongPressTime ≤ ticks * attr.u8DebounceTime
    then 1 else 0

def bnRepeater (attr : BnAttr) (typed : attr.Typed) : Repeater :=
  { size := 2 ^ 16
    tick := attr.u8DebounceTime
    first := attr.u8DebounceNumber + 2
    reference := attr.u16LongPressTime
    gap := attr.u16RepeatTime
    moves := typed.moves
    slow := by have := typed.tick; omega }

/-- A key that is held for the time `bound` is seen at a 16-bit time that is as late. -/
def Reached (attr : BnAttr) (bound ticks : Nat) : Prop :=
  attr.u8DebounceNumber + 1 < ticks → bound ≤ ticks * attr.u8DebounceTime →
    ∃ t < ticks, attr.u8DebounceNumber < t ∧ bound ≤ (t + 1) * attr.u8DebounceTime % 2 ^ 16

structure HoldInTime (attr : BnAttr) (typed : attr.Typed) (ticks : Nat) : Prop where
  repeats : ∀ first, (bnRepeater attr typed).First first →
    ticks < attr.u8DebounceNumber + 2 + first +
      repeatTicks attr * ((bnRepeater attr typed).periodsLeft first + 1)
  long : Reached attr attr.u16LongPressTime ticks
  veryLong : Reached attr attr.u16VeryLongPressTime ticks

structure WaitingAt (attr : BnAttr) (t : Nat) (info : BnInfo) : Prop where
  waiting : info.Waiting
  timer : info.u16TimerCnt = t
  valid : info.u8ValidCnt = t
  clicks : info.u8MultiClickCnt = 0
  last : info.u16LastRepeatPtr = attr.u16LongPressTime
  veryLong : info.u8VLPressSend = false
  long : info.u8LPressSend = false

structure HeldAt (attr : BnAttr) (typed : attr.Typed) (n : Nat) (info : BnInfo) : Prop where
  down : info.Down
  timer : info.u16TimerCnt = u16 (attr.u8DebounceNumber + 1 + n)
  clicks : info.u8MultiClickCnt = 0
  last : info.u16LastRepeatPtr = (bnRepeater attr typed).last n
  veryLong : info.u8VLPressSend = true ↔
    ∃ k < n, attr.u16VeryLongPressTime ≤ (bnRepeater attr typed).time k
  long : info.u8LPressSend = true ↔ ∃ k < n, attr.u16LongPressTime ≤ (bnRepeater attr typed).time k

section

variable {attr : BnAttr} {typed : attr.Typed} {info : BnInfo} {sample : Sample} {t n : Nat}

theorem bnStarted_waitingAt (attr : BnAttr) : WaitingAt attr 0 (bnStarted attr) :=
  { waiting := bnStarted_waiting attr
    timer := rfl
    valid := rfl
    clicks := rfl
    last := rfl
    veryLong := rfl
    long := rfl }

theorem WaitingAt.tick (waits : WaitingAt attr t info) (pressed : 0 < sample.u16PressNum)
    (early : t < attr.u8DebounceNumber) :
    (cfgSysBnTimer attr info sample).sent = [] ∧
      WaitingAt attr (t + 1) (cfgSysBnTimer attr info sample).info := by
  have width := attr.debounceNumber_lt
  have still := @BnInfo.Waiting.countPressed attr info sample waits.waiting
  have timer : (countPressed attr info.counted sample).u16TimerCnt = t + 1 := by
    change u16 (info.u16TimerCnt + 1) = t + 1
    rw [waits.timer]
    exact u16_of_lt (by omega)
  have undecided : ¬((countPressed attr info.counted sample).u16TimerCnt >
      attr.u8DebounceNumber ∧ (countPressed attr info.counted sample).u8PressNum = 0) := by
    omega
  rw [cfgSysBnTimer_waiting_pressed waits.waiting pressed, debouncePressed, if_neg undecided]
  refine ⟨rfl, still, timer, ?_, ?_, waits.last, waits.veryLong, waits.long⟩
  · change u8 (info.u8ValidCnt + 1) = t + 1
    rw [waits.valid]
    exact mod_eq_of_lt (by omega)
  · change (if info.u8MultiClickCnt = 1 then _ else info.u8MultiClickCnt) = 0
    rw [waits.clicks]
    rfl

theorem WaitingAt.found (waits : WaitingAt attr attr.u8DebounceNumber info)
    (pressed : 0 < sample.u16PressNum) :
    let after := cfgSysBnTimer attr info sample
    (attr.u8DebounceNumber < 255 ∧ after.sent = [⟨sample.u32PressMap, .pressDown⟩] ∧
        HeldAt attr typed 0 after.info) ∨
      after.sent = [] := by
  have width := attr.debounceNumber_lt
  have still := @BnInfo.Waiting.countPressed attr info sample waits.waiting
  have timer : (countPressed attr info.counted sample).u16TimerCnt = attr.u8DebounceNumber + 1 := by
    change u16 (info.u16TimerCnt + 1) = _
    rw [waits.timer]
    exact u16_of_lt (by omega)
  have valid : (countPressed attr info.counted sample).u8ValidCnt =
      (attr.u8DebounceNumber + 1) % 2 ^ 8 := by
    change u8 (info.u8ValidCnt + 1) = _
    rw [waits.valid]
    rfl
  have decided : (countPressed attr info.counted sample).u16TimerCnt > attr.u8DebounceNumber ∧
      (countPressed attr info.counted sample).u8PressNum = 0 :=
    ⟨by omega, still.pressNum⟩
  rw [cfgSysBnTimer_waiting_pressed waits.waiting pressed, debouncePressed, if_pos decided]
  by_cases enough : (countPressed attr info.counted sample).u8ValidCnt >
      (countPressed attr info.counted sample).u16TimerCnt * 7 / 10
  · have short : attr.u8DebounceNumber < 255 := by
      omega
    rw [if_pos enough]
    refine .inl ⟨short, rfl, ⟨?_, rfl⟩, ?_, ?_, waits.last, ?_, ?_⟩
    · exact lt_of_lt_of_eq pressed (u8_pressNum sample).symm
    · exact timer.trans (u16_of_lt (by omega)).symm
    · change (if info.u8MultiClickCnt = 1 then _ else info.u8MultiClickCnt) = 0
      rw [waits.clicks]
      rfl
    · change info.u8VLPressSend ↔ _
      rw [waits.veryLong]
      exact iff_of_false Bool.false_ne_true nofun
    · change info.u8LPressSend ↔ _
      rw [waits.long]
      exact iff_of_false Bool.false_ne_true nofun
  · rw [if_neg enough]
    exact .inr rfl

/-! ### While the key is held -/

def heldEvents (attr : BnAttr) (typed : attr.Typed) (n : Nat) (info : BnInfo)
    (map : BitVec 32) : List BnEvent :=
  (if (bnRepeater attr typed).last n + attr.u16RepeatTime < (bnRepeater attr typed).time n
    then [⟨map, .keyRepeat⟩] else []) ++
  (if info.u8VLPressSend = false ∧ attr.u16VeryLongPressTime ≤ (bnRepeater attr typed).time n
    then [⟨map, .verylongPress⟩] else []) ++
  if info.u8LPressSend = false ∧ attr.u16LongPressTime ≤ (bnRepeater attr typed).time n
    then [⟨map, .longPress⟩] else []

theorem flag_iff {flag : Bool} {P : Nat → Prop} [Decidable (P n)] (sofar : flag ↔ ∃ k < n, P k) :
    (flag || decide (flag = false ∧ P n)) ↔ ∃ k < n + 1, P k := by
  rw [exists_lt_succ_right, ← sofar]
  cases flag <;> simp

theorem HeldAt.tick (held : HeldAt attr typed n info) (pressed : 0 < sample.u16PressNum) :
    (cfgSysBnTimer attr info sample).sent =
        heldEvents attr typed n info (countPressed attr info.counted sample).u32PressMap ∧
      HeldAt attr typed (n + 1) (cfgSysBnTimer attr info sample).info := by
  have down := @BnInfo.Down.countPressed attr info sample held.down pressed
  have timer : (countPressed attr info.counted sample).u16TimerCnt =
      u16 (attr.u8DebounceNumber + 1 + (n + 1)) := by
    change u16 (info.u16TimerCnt + 1) = _
    rw [held.timer, u16_u16_add, add_assoc]
  have clicks : (countPressed attr info.counted sample).u8MultiClickCnt = 0 := by
    change (if info.u8MultiClickCnt = 1 then _ else info.u8MultiClickCnt) = 0
    rw [held.clicks]
    rfl
  have time : u16 ((countPressed attr info.counted sample).u16TimerCnt * attr.u8DebounceTime) =
      (bnRepeater attr typed).time n := by
    rw [timer, u16_u16_mul]
    unfold Repeater.time bnRepeater u16
    dsimp only
    congr 2
    omega
  have passed : ((bnRepeater attr typed).time n : Int) -
        (countPressed attr info.counted sample).u16LastRepeatPtr > attr.u16RepeatTime ↔
      (bnRepeater attr typed).last n + attr.u16RepeatTime < (bnRepeater attr typed).time n := by
    have last : (countPressed attr info.counted sample).u16LastRepeatPtr =
        (bnRepeater attr typed).last n := held.last
    omega
  rw [cfgSysBnTimer_down_pressed held.down pressed, identifyHeld,
    if_pos ⟨clicks, down.sample⟩, time]
  simp only [passed]
  refine ⟨rfl, ⟨down.pressNum, down.sample⟩, timer, clicks, ?_, flag_iff held.veryLong,
    flag_iff held.long⟩
  have last : (countPressed attr info.counted sample).u16LastRepeatPtr =
      (bnRepeater attr typed).last n := held.last
  rw [last]
  rfl

theorem heldEvents_count_long (info : BnInfo) (map : BitVec 32) :
    (heldEvents attr typed n info map).countP (fun event => event.bnType = .longPress) =
      if info.u8LPressSend = false ∧ attr.u16LongPressTime ≤ (bnRepeater attr typed).time n
      then 1 else 0 := by
  unfold heldEvents
  split <;> split <;> split <;> rfl

theorem heldEvents_count_veryLong (info : BnInfo) (map : BitVec 32) :
    (heldEvents attr typed n info map).countP (fun event => event.bnType = .verylongPress) =
      if info.u8VLPressSend = false ∧ attr.u16VeryLongPressTime ≤ (bnRepeater attr typed).time n
      then 1 else 0 := by
  unfold heldEvents
  split <;> split <;> split <;> rfl

theorem reached_iff (typed : attr.Typed) (bound : Nat) :
    Reached attr bound (attr.u8DebounceNumber + 1 + n) ↔
      (0 < n → bound ≤ (attr.u8DebounceNumber + 1 + n) * attr.u8DebounceTime →
        ∃ k < n, bound ≤ (bnRepeater attr typed).time k) := by
  have seen : (∃ t < attr.u8DebounceNumber + 1 + n, attr.u8DebounceNumber < t ∧
        bound ≤ (t + 1) * attr.u8DebounceTime % 2 ^ 16) ↔
      ∃ k < n, bound ≤ (bnRepeater attr typed).time k := by
    constructor
    · rintro ⟨t, below, late, reached⟩
      obtain ⟨k, rfl⟩ := Nat.exists_eq_add_of_le late
      refine ⟨k, by omega, ?_⟩
      have place : attr.u8DebounceNumber + 2 + k = attr.u8DebounceNumber.succ + k + 1 := by omega
      change bound ≤ (attr.u8DebounceNumber + 2 + k) * attr.u8DebounceTime % 2 ^ 16
      rwa [place]
    · rintro ⟨k, below, reached⟩
      refine ⟨attr.u8DebounceNumber + 1 + k, by omega, by omega, ?_⟩
      have place : attr.u8DebounceNumber + 2 + k = attr.u8DebounceNumber + 1 + k + 1 := by omega
      change bound ≤ (attr.u8DebounceNumber + 2 + k) * attr.u8DebounceTime % 2 ^ 16 at reached
      rwa [place] at reached
  unfold Reached
  rw [seen]
  have some : attr.u8DebounceNumber + 1 < attr.u8DebounceNumber + 1 + n ↔ 0 < n := by omega
  rw [some]

variable {samples : Nat → Sample} (pressed : ∀ t, 0 < (samples t).u16PressNum)
include pressed

theorem heldInfo_waiting (early : t ≤ attr.u8DebounceNumber) :
    WaitingAt attr t (heldInfo attr samples t) := by
  induction t with
  | zero => exact bnStarted_waitingAt attr
  | succ t ih => exact ((ih (le_of_lt early)).tick (pressed t) early).2

theorem heldTick_waiting (early : t < attr.u8DebounceNumber) :
    (heldTick attr samples t).sent = [] :=
  ((heldInfo_waiting pressed (le_of_lt early)).tick (pressed t) early).1

theorem sentCount_waiting (bnType : BnType) (early : t ≤ attr.u8DebounceNumber) :
    sentCount attr samples bnType t = 0 := by
  induction t with
  | zero => rfl
  | succ t ih =>
    rw [sentCount, ih (le_of_lt early), heldTick_waiting pressed early]
    rfl

variable (debounced : SentAt attr samples .pressDown attr.u8DebounceNumber)
include debounced

theorem heldTick_found : (heldTick attr samples attr.u8DebounceNumber).sent =
      [⟨(samples attr.u8DebounceNumber).u32PressMap, .pressDown⟩] ∧
    HeldAt attr typed 0 (heldInfo attr samples (attr.u8DebounceNumber + 1)) := by
  have waits := heldInfo_waiting pressed (le_refl attr.u8DebounceNumber)
  rcases @WaitingAt.found attr typed _ _ waits (pressed _) with ⟨_, sent, held⟩ | dropped
  · exact ⟨sent, held⟩
  · obtain ⟨_, member, _⟩ := debounced
    unfold heldTick at member
    rw [dropped] at member
    cases member

theorem heldInfo_held :
    HeldAt attr typed n (heldInfo attr samples (attr.u8DebounceNumber + 1 + n)) := by
  induction n with
  | zero => exact (heldTick_found pressed debounced).2
  | succ n ih => exact (ih.tick (pressed _)).2

theorem heldTick_held : ∃ info map, HeldAt attr typed n info ∧
    (heldTick attr samples (attr.u8DebounceNumber + 1 + n)).sent =
      heldEvents attr typed n info map :=
  have held := heldInfo_held pressed debounced
  ⟨_, _, held, (held.tick (pressed _)).1⟩

variable (typed)
include typed

theorem sentAt_keyRepeat_iff : SentAt attr samples .keyRepeat t ↔
    ∃ n, t = attr.u8DebounceNumber + 1 + n ∧ (bnRepeater attr typed).Fires n := by
  rcases lt_trichotomy t attr.u8DebounceNumber with early | rfl | late
  · refine iff_of_false ?_ (by omega)
    rintro ⟨event, member, _⟩
    rw [heldTick_waiting pressed early] at member
    cases member
  · refine iff_of_false ?_ (by omega)
    rintro ⟨event, member, type⟩
    rw [(@heldTick_found attr typed samples pressed debounced).1, mem_singleton] at member
    rw [member] at type
    cases type
  · obtain ⟨n, rfl⟩ := Nat.exists_eq_add_of_le late
    obtain ⟨_, map, _, sent⟩ := @heldTick_held attr typed n samples pressed debounced
    have fires : SentAt attr samples .keyRepeat (attr.u8DebounceNumber + 1 + n) ↔
        (bnRepeater attr typed).Fires n := by
      unfold SentAt
      rw [sent]
      unfold heldEvents Repeater.Fires
      constructor
      · rintro ⟨event, member, type⟩
        by_contra quiet
        change ¬_ + attr.u16RepeatTime < _ at quiet
        rw [if_neg quiet, nil_append] at member
        rcases mem_append.mp member with veryLong | long
        · rw [(mem_ite_nil_right.mp veryLong).2 |> mem_singleton.mp] at type
          cases type
        · rw [(mem_ite_nil_right.mp long).2 |> mem_singleton.mp] at type
          cases type
      · intro passed
        change _ + attr.u16RepeatTime < _ at passed
        refine ⟨⟨map, .keyRepeat⟩, ?_, rfl⟩
        rw [if_pos passed]
        exact .head _
    rw [succ_eq_add_one, fires]
    constructor
    · exact fun passed => ⟨n, rfl, passed⟩
    · rintro ⟨k, _, passed⟩
      obtain rfl : n = k := by omega
      exact passed

theorem quiet_between {s : Nat} (sent : SentAt attr samples .keyRepeat t) (some : 0 < s)
    (short : s < repeatTicks attr) : ¬SentAt attr samples .keyRepeat (t + s) := by
  rw [sentAt_keyRepeat_iff typed pressed debounced] at sent ⊢
  obtain ⟨n, rfl, fires⟩ := sent
  rintro ⟨k, _, again⟩
  obtain rfl : k = n + s := by omega
  exact not_fires_between fires some short again

theorem next_iff (ticks : Nat) :
    (∀ t, SentAt attr samples .keyRepeat t → t + repeatTicks attr < ticks →
        SentAt attr samples .keyRepeat (t + repeatTicks attr)) ↔
      ∀ first, (bnRepeater attr typed).First first → ticks < attr.u8DebounceNumber + 2 + first +
          repeatTicks attr * ((bnRepeater attr typed).periodsLeft first + 1) := by
  have onTime := onTime_iff (bnRepeater attr typed) (ticks - (attr.u8DebounceNumber + 2))
  have period : (bnRepeater attr typed).period = repeatTicks attr := rfl
  have positive : 0 < repeatTicks attr := succ_pos _
  rw [period] at onTime
  constructor
  · intro next first isFirst
    have short := onTime.mp (by
      intro n fires room
      have sent := next (attr.u8DebounceNumber + 1 + n)
        ((sentAt_keyRepeat_iff typed pressed debounced).mpr ⟨n, rfl, fires⟩)
        (by rw [period] at room; omega)
      obtain ⟨k, _, again⟩ := (sentAt_keyRepeat_iff typed pressed debounced).mp sent
      obtain rfl : k = n + repeatTicks attr := by omega
      exact again) first isFirst
    omega
  · intro short t sent room
    obtain ⟨n, rfl, fires⟩ := (sentAt_keyRepeat_iff typed pressed debounced).mp sent
    have again := onTime.mpr (fun first isFirst => by
      have bound := short first isFirst
      omega) n fires (by rw [period]; omega)
    exact (sentAt_keyRepeat_iff typed pressed debounced).mpr ⟨n + repeatTicks attr, by omega, again⟩

/-! ### Long presses -/

variable {bnType : BnType}

theorem sentCount_flag (held : bnType ≠ .pressDown) {flag : BnInfo → Bool}
    {P : Nat → Prop} [DecidablePred P]
    (sent : ∀ n info map, (heldEvents attr typed n info map).countP
      (fun event => event.bnType = bnType) = if flag info = false ∧ P n then 1 else 0)
    (flags : ∀ n info, HeldAt attr typed n info → (flag info ↔ ∃ k < n, P k)) :
    ((∃ k < n, P k) ∧ sentCount attr samples bnType (attr.u8DebounceNumber + 1 + n) = 1) ∨
      (¬(∃ k < n, P k) ∧ sentCount attr samples bnType (attr.u8DebounceNumber + 1 + n) = 0) := by
  induction n with
  | zero =>
    refine .inr ⟨nofun, ?_⟩
    have none : ¬decide (BnType.pressDown = bnType) := by
      simpa using Ne.symm held
    rw [add_zero, sentCount, sentCount_waiting pressed bnType (.refl),
      (@heldTick_found attr typed samples pressed debounced).1, countP_singleton,
      if_neg none]
  | succ n ih =>
    obtain ⟨info, map, state, events⟩ := @heldTick_held attr typed n samples pressed debounced
    have sofar := flags n info state
    rw [← add_assoc, sentCount, events, sent, exists_lt_succ_right]
    rcases ih with ⟨before, once⟩ | ⟨before, none⟩
    · have set := sofar.mpr before
      refine .inl ⟨.inl before, ?_⟩
      rw [once, set, if_neg (fun both => nomatch both.1)]
    · have clear : flag info = false := by
        cases value : flag info with
        | true => exact absurd (sofar.mp value) before
        | false => rfl
      rw [none]
      by_cases now : P n
      · refine .inl ⟨.inr now, ?_⟩
        rw [if_pos ⟨clear, now⟩]
      · refine .inr ⟨fun either => either.elim before now, ?_⟩
        rw [if_neg (fun both => now both.2)]

theorem once_iff (held : bnType ≠ .pressDown) {flag : BnInfo → Bool} (bound : Nat)
    (sent : ∀ n info map, (heldEvents attr typed n info map).countP
      (fun event => event.bnType = bnType) =
        if flag info = false ∧ bound ≤ (bnRepeater attr typed).time n then 1 else 0)
    (flags : ∀ n info, HeldAt attr typed n info →
      (flag info ↔ ∃ k < n, bound ≤ (bnRepeater attr typed).time k)) (ticks : Nat) :
    sentCount attr samples bnType ticks =
        (if attr.u8DebounceNumber + 1 < ticks ∧ bound ≤ ticks * attr.u8DebounceTime then 1 else 0) ↔
      Reached attr bound ticks := by
  by_cases late : attr.u8DebounceNumber + 1 ≤ ticks
  · obtain ⟨n, rfl⟩ := Nat.exists_eq_add_of_le late
    have count := @sentCount_flag attr typed n samples pressed debounced bnType held flag
      (fun k => bound ≤ (bnRepeater attr typed).time k) _ sent flags
    have covered : (∃ k < n, bound ≤ (bnRepeater attr typed).time k) →
        bound ≤ (attr.u8DebounceNumber + 1 + n) * attr.u8DebounceTime := by
      rintro ⟨k, _, _⟩
      have wrapped : (bnRepeater attr typed).time k ≤
          (attr.u8DebounceNumber + 2 + k) * attr.u8DebounceTime := mod_le _ _
      have ticks := Nat.mul_le_mul_right attr.u8DebounceTime
        (show attr.u8DebounceNumber + 2 + k ≤ attr.u8DebounceNumber + 1 + n by omega)
      omega
    rw [reached_iff typed]
    rcases count with ⟨seen, once⟩ | ⟨unseen, none⟩
    · have some : 0 < n := by
        omega
      refine iff_of_true ?_ fun _ _ => seen
      rw [once, if_pos ⟨by omega, covered seen⟩]
    · rw [none]
      constructor
      · intro equal some long
        rw [if_pos ⟨by omega, long⟩] at equal
        cases equal
      · intro reaches
        rw [if_neg]
        rintro ⟨some, long⟩
        exact unseen (reaches (by omega) long)
  · have none := @sentCount_waiting attr ticks samples pressed bnType (by omega)
    refine iff_of_true ?_ fun held => absurd held (by omega)
    rw [none, if_neg fun both => late (le_of_lt both.1)]

end

/-- A hold meets the contract exactly if it ends before the repeat that is due after the
16-bit time has wrapped, and that time gets as late as the key is held. -/
theorem hold_contract (attr : BnAttr) (typed : attr.Typed) (samples : Nat → Sample)
    (pressed : ∀ t, 0 < (samples t).u16PressNum)
    (debounced : SentAt attr samples .pressDown attr.u8DebounceNumber) (ticks : Nat) :
    HoldContract attr samples ticks ↔ HoldInTime attr typed ticks := by
  have next := next_iff typed pressed debounced ticks
  have long := @once_iff attr typed samples pressed debounced .longPress nofun
    BnInfo.u8LPressSend attr.u16LongPressTime (fun _ => heldEvents_count_long)
    (fun _ _ => HeldAt.long) ticks
  have veryLong := @once_iff attr typed samples pressed debounced .verylongPress nofun
    BnInfo.u8VLPressSend attr.u16VeryLongPressTime (fun _ => heldEvents_count_veryLong)
    (fun _ _ => HeldAt.veryLong) ticks
  constructor
  · intro contract
    exact ⟨next.mp contract.next, long.mp contract.long, veryLong.mp contract.veryLong⟩
  · intro inTime
    exact
      { quiet := fun t s sent some short _ => quiet_between typed pressed debounced sent some short
        next := next.mpr inTime.repeats
        long := long.mpr inTime.long
        veryLong := veryLong.mpr inTime.veryLong }

theorem oneKeyAttr_typed : oneKeyAttr.Typed :=
  ⟨by decide, by decide, by decide, by decide, by decide⟩

theorem keyDown_debounced :
    SentAt oneKeyAttr (fun _ => keyDown) .pressDown oneKeyAttr.u8DebounceNumber := by
  unfold SentAt
  decide +kernel

theorem hold_contract_six_seconds : HoldContract oneKeyAttr (fun _ => keyDown) 600 := by
  refine (hold_contract oneKeyAttr oneKeyAttr_typed (fun _ => keyDown) (fun _ => by decide)
    keyDown_debounced 600).mpr ⟨?_, ?_, ?_⟩
  · intro first _
    have period : repeatTicks oneKeyAttr = 81 := rfl
    have left : (bnRepeater oneKeyAttr oneKeyAttr_typed).periodsLeft first =
        (2 ^ 16 - 1 - (5 + first) * 10 % 2 ^ 16) / 810 := rfl
    have number : oneKeyAttr.u8DebounceNumber = 3 := rfl
    rw [period, left, number]
    omega
  · exact fun _ _ => ⟨149, by decide, by decide, by decide⟩
  · exact fun _ _ => ⟨499, by decide, by decide, by decide⟩

/-- The repeat that is due after 66.3 seconds is lost. -/
theorem hold_contract_wrapped : ¬HoldContract oneKeyAttr (fun _ => keyDown) 6630 := by
  intro contract
  have first : (bnRepeater oneKeyAttr oneKeyAttr_typed).First 226 := by
    constructor
    · decide
    · intro earlier _
      have small : (5 + earlier) * 10 % 2 ^ 16 = (5 + earlier) * 10 :=
        mod_eq_of_lt (by omega)
      change ¬1500 + 800 < (5 + earlier) * 10 % 2 ^ 16
      omega
  have short := (next_iff oneKeyAttr_typed (fun _ => by decide) keyDown_debounced 6630).mp
    contract.next 226 first
  exact absurd short (by decide)

end Hfirmware.System
