/-
The button timer. While a button is down a periodic timer samples the keys; its handler
counts samples, debounces the press, and sends the button events.
-/

import Hfirmware.FixedWidth

namespace Hfirmware.System

open List

inductive BnType where
  | singleClick | doubleClick | longPress | verylongPress | combinationKey | keyRepeat | pressDown
  | pressRelease
deriving DecidableEq

structure BnAttr where
  u32BitMap : BitVec 32
  (u16DoubleClickInterval u16SingleRepeatInterval u16LongPressTime : Nat)
  (u16VeryLongPressTime u16RepeatTime u8PressLevel u8DebounceTime : Nat)
  u8DebounceNumber : Nat
  debounceNumber_lt : u8DebounceNumber < 2 ^ 8 := by decide

/-- The initial `g_stBnAttr`, with one key in place of none. -/
def oneKeyAttr : BnAttr :=
  { u32BitMap := 0x00000010
    u16DoubleClickInterval := 60
    u16SingleRepeatInterval := 800
    u16LongPressTime := 1500
    u16VeryLongPressTime := 5000
    u16RepeatTime := 800
    u8PressLevel := 0
    u8DebounceTime := 10
    u8DebounceNumber := 3 }

structure BnInfo where
  (u16TimerCnt u16InvalidCnt u16LastRepeatPtr : Nat)
  u8MultiClickCnt : BitVec 8
  u8ValidCnt : Nat
  u32PressMap : BitVec 32
  u8PressNum : Nat
  (u8Sample u8Pd u8VLPressSend u8LPressSend : Bool)
deriving DecidableEq

def BnInfo.zero : BnInfo :=
  { u16TimerCnt := 0
    u16InvalidCnt := 0
    u16LastRepeatPtr := 0
    u8MultiClickCnt := 0
    u8ValidCnt := 0
    u32PressMap := 0
    u8PressNum := 0
    u8Sample := false
    u8Pd := false
    u8VLPressSend := false
    u8LPressSend := false }

structure BnEvent where
  u32PressMap : BitVec 32
  bnType : BnType
deriving DecidableEq

/-- What `_cfg_sysBnGetPressed` returns: at most one key a pin and the ADC key. -/
structure Sample where
  u16PressNum : Nat
  u32PressMap : BitVec 32
  pressNum_le : u16PressNum ≤ 33

structure Pins where
  powerPin : Nat
  (gpio adcKeyMap : BitVec 32)

def pinPressed (attr : BnAttr) (pins : Pins) (i : Nat) : Bool :=
  attr.u32BitMap.getLsbD i &&
    if i = 0 then pins.powerPin == attr.u8PressLevel
    else (pins.gpio.getLsbD i).toNat == attr.u8PressLevel

/-- The pins that `_cfg_sysBnGetPressed` finds pressed; none when bit 31 turns
GPIO buttons off. -/
def pressedPins (attr : BnAttr) (pins : Pins) (pinNum : Nat) : List Nat :=
  if attr.u32BitMap.getLsbD 31 then []
  else (List.range (min pinNum 32)).filter (pinPressed attr pins)

theorem pressedPins_length_le (attr : BnAttr) (pins : Pins) (pinNum : Nat) :
    (pressedPins attr pins pinNum).length ≤ 32 := by
  unfold pressedPins
  split
  · exact Nat.zero_le 32
  · refine le_trans (length_filter_le _ _) ?_
    rw [length_range]
    exact min_le_right pinNum 32

def cfgSysBnGetPressed (attr : BnAttr) (pins : Pins) (pinNum : Nat) : Sample :=
  let u32AdcKey := pins.adcKeyMap &&& attr.u32BitMap
  let pressed := pressedPins attr pins pinNum
  { u16PressNum := pressed.length + if u32AdcKey ≠ 0 then 1 else 0
    u32PressMap := pressed.foldl (fun map i => map ||| (1#32 <<< i)) 0 ||| u32AdcKey
    pressNum_le := by
      have few : pressed.length ≤ 32 := pressedPins_length_le attr pins pinNum
      split <;> omega }

def keyDown : Sample :=
  cfgSysBnGetPressed oneKeyAttr { powerPin := 1, gpio := 0xffffffef, adcKeyMap := 0 } 32

def keyUp : Sample :=
  cfgSysBnGetPressed oneKeyAttr { powerPin := 1, gpio := 0xffffffff, adcKeyMap := 0 } 32

structure Ticked where
  info : BnInfo
  sent : List BnEvent
  ended : Bool

def bnTimerOver (info : BnInfo) (sent : List BnEvent) : Ticked :=
  { info := { info with u8Pd := false }
    sent := sent
    ended := true }

def countPressed (attr : BnAttr) (info : BnInfo) (sample : Sample) : BnInfo :=
  let collects := info.u8Sample = true ∧ attr.u32BitMap &&& 0xff000000 = 0
  { info with
    u8ValidCnt := u8 (info.u8ValidCnt + 1)
    u16InvalidCnt := 0
    u8MultiClickCnt :=
      if info.u8MultiClickCnt = 1 then info.u8MultiClickCnt ||| 0x80 else info.u8MultiClickCnt
    u32PressMap :=
      if collects then info.u32PressMap ||| sample.u32PressMap else info.u32PressMap
    u8PressNum :=
      if collects ∧ sample.u16PressNum > info.u8PressNum then u8 sample.u16PressNum
      else info.u8PressNum }

def identifyHeld (attr : BnAttr) (info : BnInfo) : BnInfo × List BnEvent :=
  if info.u8MultiClickCnt = 0 ∧ info.u8Sample = true then
    let u16Time := u16 (info.u16TimerCnt * attr.u8DebounceTime)
    let repeats := (u16Time : Int) - info.u16LastRepeatPtr > attr.u16RepeatTime
    let veryLong := info.u8VLPressSend = false ∧ u16Time ≥ attr.u16VeryLongPressTime
    let long := info.u8LPressSend = false ∧ u16Time ≥ attr.u16LongPressTime
    ({ info with
        u16LastRepeatPtr := if repeats then u16Time else info.u16LastRepeatPtr
        u8VLPressSend := info.u8VLPressSend || decide veryLong
        u8LPressSend := info.u8LPressSend || decide long },
      (if repeats then [⟨info.u32PressMap, .keyRepeat⟩] else []) ++
        (if veryLong then [⟨info.u32PressMap, .verylongPress⟩] else []) ++
          if long then [⟨info.u32PressMap, .longPress⟩] else [])
  else (info, [])

def debouncePressed (attr : BnAttr) (info : BnInfo) (sample : Sample) (sent : List BnEvent) :
    Ticked :=
  if info.u16TimerCnt > attr.u8DebounceNumber ∧ info.u8PressNum = 0 then
    if info.u8ValidCnt > info.u16TimerCnt * 7 / 10 then
      { info := { info with
          u8Sample := true
          u8PressNum := u8 sample.u16PressNum
          u32PressMap := sample.u32PressMap }
        sent := sent ++ [⟨sample.u32PressMap, .pressDown⟩]
        ended := false }
    else bnTimerOver .zero sent
  else
    { info := info
      sent := sent
      ended := false }

def pressActionOver (attr : BnAttr) (info : BnInfo) : Ticked :=
  let u16Time := u16 (info.u16TimerCnt * attr.u8DebounceTime)
  let u16Released := u16 (info.u16InvalidCnt * attr.u8DebounceTime)
  let release : BnEvent := ⟨info.u32PressMap, .pressRelease⟩
  if info.u8PressNum ≠ 1 then bnTimerOver info [release, ⟨info.u32PressMap, .combinationKey⟩]
  else if u16Time ≥ attr.u16VeryLongPressTime then bnTimerOver info [release]
  else if u16Time ≥ attr.u16LongPressTime then bnTimerOver info [release]
  else if info.u8MultiClickCnt &&& 0x81 = 0x81 then
    bnTimerOver info [release, ⟨info.u32PressMap, .doubleClick⟩]
  else if u16Released > attr.u16SingleRepeatInterval then
    bnTimerOver info [release, ⟨info.u32PressMap, .singleClick⟩]
  else
    { info := { info with
        u8MultiClickCnt :=
          if u16Released > attr.u16DoubleClickInterval then 1 else info.u8MultiClickCnt }
      sent := []
      ended := false }

def debounceReleased (attr : BnAttr) (info : BnInfo) : Ticked :=
  if info.u16TimerCnt > attr.u8DebounceNumber ∧ info.u8PressNum = 0 ∧
      info.u8ValidCnt < info.u16TimerCnt * 8 / 10 then
    bnTimerOver .zero []
  else
    { info := info
      sent := []
      ended := false }

def cfgSysBnTimer (attr : BnAttr) (info : BnInfo) (sample : Sample) : Ticked :=
  let counted := { info with u16TimerCnt := u16 (info.u16TimerCnt + 1) }
  if sample.u16PressNum > 0 then
    let (held, sent) := identifyHeld attr (countPressed attr counted sample)
    debouncePressed attr held sample sent
  else
    let released := { counted with u16InvalidCnt := u16 (counted.u16InvalidCnt + 1) }
    if released.u8PressNum > 0 ∧ released.u16InvalidCnt ≥ attr.u8DebounceNumber then
      pressActionOver attr released
    else debounceReleased attr released

def bnStarted (attr : BnAttr) : BnInfo :=
  { BnInfo.zero with
    u16LastRepeatPtr := attr.u16LongPressTime
    u8Pd := true }

/-! ### Before and after the press is debounced -/

structure BnInfo.Waiting (info : BnInfo) : Prop where
  pressNum : info.u8PressNum = 0
  sample : info.u8Sample = false

structure BnInfo.Down (info : BnInfo) : Prop where
  pressNum : 0 < info.u8PressNum
  sample : info.u8Sample = true

def BnInfo.counted (info : BnInfo) : BnInfo :=
  { info with u16TimerCnt := u16 (info.u16TimerCnt + 1) }

def BnInfo.released (info : BnInfo) : BnInfo :=
  { info.counted with u16InvalidCnt := u16 (info.u16InvalidCnt + 1) }

section

variable {attr : BnAttr} {info : BnInfo} {sample : Sample}

theorem u8_pressNum (sample : Sample) : u8 sample.u16PressNum = sample.u16PressNum := by
  have few := sample.pressNum_le
  exact Nat.mod_eq_of_lt (by omega)

theorem BnInfo.Waiting.countPressed (waiting : info.Waiting) :
    (countPressed attr info.counted sample).Waiting := by
  have idle : ¬((info.u8Sample ∧ attr.u32BitMap &&& 0xff000000 = 0) ∧
      sample.u16PressNum > info.u8PressNum) := by
    rw [waiting.sample]
    rintro ⟨⟨collects, -⟩, -⟩
    cases collects
  exact ⟨(if_neg idle).trans waiting.pressNum, waiting.sample⟩

theorem BnInfo.Down.countPressed (down : info.Down) (pressed : 0 < sample.u16PressNum) :
    (countPressed attr info.counted sample).Down := by
  refine ⟨?_, down.sample⟩
  change 0 < if _ then u8 sample.u16PressNum else info.u8PressNum
  rw [u8_pressNum]
  split
  · exact pressed
  · exact down.pressNum

theorem identifyHeld_waiting (waiting : info.Waiting) : identifyHeld attr info = (info, []) := by
  refine if_neg fun both => ?_
  have held := both.2
  rw [waiting.sample] at held
  cases held

theorem identifyHeld_down (down : info.Down) : (identifyHeld attr info).1.Down := by
  unfold identifyHeld
  split
  · exact ⟨down.pressNum, down.sample⟩
  · exact down

theorem identifyHeld_frame (attr : BnAttr) (info : BnInfo) :
    let after := identifyHeld attr info
    after.1.u16TimerCnt = info.u16TimerCnt ∧ after.1.u16InvalidCnt = info.u16InvalidCnt ∧
      after.1.u8MultiClickCnt = info.u8MultiClickCnt ∧ after.1.u8PressNum = info.u8PressNum ∧
      after.1.u8Pd = info.u8Pd := by
  unfold identifyHeld
  split
  · exact ⟨rfl, rfl, rfl, rfl, rfl⟩
  · exact ⟨rfl, rfl, rfl, rfl, rfl⟩

theorem identifyHeld_sent (attr : BnAttr) (info : BnInfo) :
    ∀ event ∈ (identifyHeld attr info).2, event.bnType ∈
      [BnType.keyRepeat, .verylongPress, .longPress] := by
  unfold identifyHeld
  split
  · intro event member
    rcases mem_append.mp member with early | long
    · rcases mem_append.mp early with repeats | veryLong
      · rw [(mem_ite_nil_right.mp repeats).2 |> mem_singleton.mp]
        exact .head _
      · rw [(mem_ite_nil_right.mp veryLong).2 |> mem_singleton.mp]
        exact .tail _ (.head _)
    · rw [(mem_ite_nil_right.mp long).2 |> mem_singleton.mp]
      exact mem_cons_of_mem _ (.tail _ (.head _))
  · intro event member
    cases member

theorem pressActionOver_one (one : info.u8PressNum = 1)
    (order : attr.u16LongPressTime < attr.u16VeryLongPressTime) :
    (attr.u16LongPressTime ≤ u16 (info.u16TimerCnt * attr.u8DebounceTime) ∧
        pressActionOver attr info = bnTimerOver info [⟨info.u32PressMap, .pressRelease⟩]) ∨
      (u16 (info.u16TimerCnt * attr.u8DebounceTime) < attr.u16LongPressTime ∧
        ∃ click, (click = .singleClick ∨ click = .doubleClick) ∧ pressActionOver attr info =
            bnTimerOver info [⟨info.u32PressMap, .pressRelease⟩, ⟨info.u32PressMap, click⟩]) ∨
      (info.u8MultiClickCnt &&& 0x81 ≠ 0x81 ∧ pressActionOver attr info =
          { info := { info with
              u8MultiClickCnt :=
                if u16 (info.u16InvalidCnt * attr.u8DebounceTime) > attr.u16DoubleClickInterval
                then 1 else info.u8MultiClickCnt }
            sent := []
            ended := false }) := by
  unfold pressActionOver
  rw [if_neg (not_not_intro one)]
  by_cases veryLong : u16 (info.u16TimerCnt * attr.u8DebounceTime) ≥ attr.u16VeryLongPressTime
  · rw [if_pos veryLong]
    exact .inl ⟨le_trans (le_of_lt order) veryLong, rfl⟩
  rw [if_neg veryLong]
  by_cases long : u16 (info.u16TimerCnt * attr.u8DebounceTime) ≥ attr.u16LongPressTime
  · rw [if_pos long]
    exact .inl ⟨long, rfl⟩
  rw [if_neg long]
  refine .inr ?_
  by_cases second : info.u8MultiClickCnt &&& 0x81 = 0x81
  · rw [if_pos second]
    exact .inl ⟨not_le.mp long, _, .inr rfl, rfl⟩
  rw [if_neg second]
  split
  · exact .inl ⟨not_le.mp long, _, .inl rfl, rfl⟩
  · exact .inr ⟨second, rfl⟩

theorem cfgSysBnTimer_pressed (pressed : 0 < sample.u16PressNum) :
    let after := identifyHeld attr (countPressed attr info.counted sample)
    cfgSysBnTimer attr info sample = debouncePressed attr after.1 sample
        after.2 :=
  if_pos pressed

theorem cfgSysBnTimer_released (released : ¬0 < sample.u16PressNum) :
    cfgSysBnTimer attr info sample =
      if info.u8PressNum > 0 ∧ info.released.u16InvalidCnt ≥ attr.u8DebounceNumber then
        pressActionOver attr info.released
      else debounceReleased attr info.released :=
  if_neg released

theorem cfgSysBnTimer_waiting_pressed (waiting : info.Waiting) (pressed : 0 < sample.u16PressNum) :
    cfgSysBnTimer attr info sample =
      debouncePressed attr (countPressed attr info.counted sample) sample [] := by
  rw [cfgSysBnTimer_pressed pressed, identifyHeld_waiting waiting.countPressed]

theorem cfgSysBnTimer_waiting_released (waiting : info.Waiting)
    (released : ¬0 < sample.u16PressNum) :
    cfgSysBnTimer attr info sample = debounceReleased attr info.released := by
  rw [cfgSysBnTimer_released released, waiting.pressNum]
  exact if_neg fun both => lt_irrefl 0 both.1

theorem cfgSysBnTimer_down_pressed (down : info.Down) (pressed : 0 < sample.u16PressNum) :
    let after := identifyHeld attr (countPressed attr info.counted sample)
    cfgSysBnTimer attr info sample =
      { info := after.1
        sent := after.2
        ended := false } := by
  have still : (identifyHeld attr (countPressed attr info.counted sample)).1.Down :=
    identifyHeld_down (down.countPressed pressed)
  rw [cfgSysBnTimer_pressed pressed]
  exact if_neg fun both => ne_of_gt still.pressNum both.2

theorem cfgSysBnTimer_down_released (down : info.Down) (released : ¬0 < sample.u16PressNum) :
    cfgSysBnTimer attr info sample =
      if info.released.u16InvalidCnt ≥ attr.u8DebounceNumber then
        pressActionOver attr info.released
      else
        { info := info.released
          sent := []
          ended := false } := by
  have undecided : debounceReleased attr info.released =
      { info := info.released
        sent := []
        ended := false } :=
    if_neg fun all => ne_of_gt down.pressNum all.2.1
  rw [cfgSysBnTimer_released released, undecided]
  by_cases enough : info.released.u16InvalidCnt ≥ attr.u8DebounceNumber
  · rw [if_pos enough, if_pos ⟨down.pressNum, enough⟩]
  · rw [if_neg enough, if_neg fun both => enough both.2]

theorem cfgSysBnTimer_waiting (waiting : info.Waiting) :
    let after := cfgSysBnTimer attr info sample
    (after.ended ∧ after.sent = []) ∨ (after.ended = false ∧ after.sent = [] ∧ after.info.Waiting) ∨
      (after.ended = false ∧ after.sent = [⟨sample.u32PressMap, .pressDown⟩] ∧
        after.info.Down) := by
  by_cases pressed : 0 < sample.u16PressNum
  · have still := @BnInfo.Waiting.countPressed attr info sample waiting
    rw [cfgSysBnTimer_waiting_pressed waiting pressed]
    unfold debouncePressed
    split
    · split
      · exact .inr (.inr ⟨rfl, rfl, lt_of_lt_of_eq pressed (u8_pressNum sample).symm, rfl⟩)
      · exact .inl ⟨rfl, rfl⟩
    · exact .inr (.inl ⟨rfl, rfl, still⟩)
  · rw [cfgSysBnTimer_waiting_released waiting pressed]
    unfold debounceReleased
    split
    · exact .inl ⟨rfl, rfl⟩
    · exact .inr (.inl ⟨rfl, rfl, waiting.pressNum, waiting.sample⟩)

def EndsPress (sent : List BnEvent) : Prop :=
  ∃ map, sent = [⟨map, .pressRelease⟩] ∨
    ∃ click ∈ [BnType.singleClick, .doubleClick, .combinationKey],
      sent = [⟨map, .pressRelease⟩, ⟨map, click⟩]

theorem pressActionOver_cases (attr : BnAttr) (info : BnInfo) :
    (∃ sent, EndsPress sent ∧ pressActionOver attr info = bnTimerOver info sent) ∨
      ∃ clicks, pressActionOver attr info =
        { info := { info with u8MultiClickCnt := clicks }
          sent := []
          ended := false } := by
  unfold pressActionOver
  dsimp only
  split
  · exact .inl ⟨_, ⟨_, .inr ⟨.combinationKey, by decide, rfl⟩⟩, rfl⟩
  split
  · exact .inl ⟨_, ⟨_, .inl rfl⟩, rfl⟩
  split
  · exact .inl ⟨_, ⟨_, .inl rfl⟩, rfl⟩
  split
  · exact .inl ⟨_, ⟨_, .inr ⟨.doubleClick, by decide, rfl⟩⟩, rfl⟩
  split
  · exact .inl ⟨_, ⟨_, .inr ⟨.singleClick, by decide, rfl⟩⟩, rfl⟩
  · exact .inr ⟨_, rfl⟩

theorem cfgSysBnTimer_u8Pd (attr : BnAttr) (info : BnInfo) (sample : Sample) :
    (cfgSysBnTimer attr info sample).info.u8Pd =
      (!(cfgSysBnTimer attr info sample).ended && info.u8Pd) := by
  by_cases pressed : 0 < sample.u16PressNum
  · obtain ⟨-, -, -, -, same⟩ := identifyHeld_frame attr (countPressed attr info.counted sample)
    rw [cfgSysBnTimer_pressed pressed]
    unfold debouncePressed
    split
    · split
      · exact same
      · rfl
    · exact same
  · rw [cfgSysBnTimer_released pressed]
    split
    · rcases pressActionOver_cases attr info.released with ⟨sent, -, ends⟩ | ⟨clicks, waits⟩
      · rw [ends]
        rfl
      · rw [waits]
        rfl
    · unfold debounceReleased
      split <;> rfl

theorem cfgSysBnTimer_down (down : info.Down) :
    let after := cfgSysBnTimer attr info sample
    (after.ended = false ∧ after.info.Down ∧ ∀ event ∈ after.sent, event.bnType ∈
          [BnType.keyRepeat, .verylongPress, .longPress]) ∨
      (after.ended ∧ EndsPress after.sent) := by
  by_cases pressed : 0 < sample.u16PressNum
  · rw [cfgSysBnTimer_down_pressed down pressed]
    exact .inl ⟨rfl, identifyHeld_down (down.countPressed pressed), identifyHeld_sent _ _⟩
  · rw [cfgSysBnTimer_down_released down pressed]
    split
    · rcases pressActionOver_cases attr info.released with ⟨sent, shape, ends⟩ | ⟨clicks, waits⟩
      · rw [ends]
        exact .inr ⟨rfl, shape⟩
      · rw [waits]
        exact .inl ⟨rfl, ⟨down.pressNum, down.sample⟩, nofun⟩
    · exact .inl ⟨rfl, ⟨down.pressNum, down.sample⟩, nofun⟩

theorem cfgSysBnTimer_waiting_over (waiting : info.Waiting)
    (ended : (cfgSysBnTimer attr info sample).ended) :
    (cfgSysBnTimer attr info sample).sent = [] := by
  rcases @cfgSysBnTimer_waiting attr info sample waiting with dropped | on | found
  · exact dropped.2
  · rw [on.1] at ended
    cases ended
  · rw [found.1] at ended
    cases ended

theorem bnStarted_waiting (attr : BnAttr) : (bnStarted attr).Waiting := ⟨rfl, rfl⟩

end

end Hfirmware.System
