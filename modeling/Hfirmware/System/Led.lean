/-
Blinking LEDs. An action waits until the blink of its channel is over and starts a one-
shot timer, whose callback starts it again for each half of the period.
-/

import Hfirmware.GuardedRun
import Hfirmware.Ownership

namespace Hfirmware.System.Led

open List GuardedRun Ownership

abbrev Channel : Type := Fin 32

structure LedAction where
  (u16PeroidTime u16DutyTime : UInt16)
  u8RepeatCnt : UInt8
deriving DecidableEq

structure LedIoInfo where
  block : Nat
  stLedAction : LedAction
  u8LedIndex : Channel
  u8Cnt : UInt8
  started : Bool

/-- The thread in the loop of `_cfg_sysLedAction`, with the number of expirations of
the timer of its channel since it is there. -/
structure Waiting where
  u8LedIdx : Channel
  stLedAction : LedAction
  expirations : Nat

structure State where
  g_u32LedEnableMap : Channel → Bool
  g_u32LedOverMap : Channel → Bool
  timers : List LedIoInfo
  ledger : Ledger Unit
  waiting : Option Waiting

def State.start : State :=
  { g_u32LedEnableMap := fun _ => false
    g_u32LedOverMap := fun _ => true
    timers := []
    ledger := Ledger.empty
    waiting := none }

def setBit (map : Channel → Bool) (channel : Channel) (value : Bool) : Channel → Bool :=
  fun other => if other = channel then value else map other

/-- `oshalTimerStart`, which refuses a time of 0. -/
def LedIoInfo.timerStart (info : LedIoInfo) (millisec : UInt16) : LedIoInfo :=
  { info with started := decide (millisec ≠ 0) }

def State.replace (state : State) (info : LedIoInfo) : State :=
  { state with
    timers := state.timers.map fun other => if other.block = info.block then info else other }

def State.finish (state : State) (info : LedIoInfo) : State :=
  { state with
    g_u32LedOverMap := setBit state.g_u32LedOverMap info.u8LedIndex true
    timers := state.timers.filter fun other => other.block ≠ info.block
    ledger := state.ledger.free () info.block }

def State.ends (state : State) (info : LedIoInfo) : Bool :=
  !state.g_u32LedEnableMap info.u8LedIndex ||
    (info.stLedAction.u8RepeatCnt ≠ 0 && info.stLedAction.u8RepeatCnt ≤ info.u8Cnt / 2)

def sysLedSwAction (info : LedIoInfo) (state : State) : State :=
  let used := { state with ledger := state.ledger.use () info.block }
  let counted := { info with u8Cnt := info.u8Cnt + 1, started := false }
  if counted.u8Cnt % 2 ≠ 0 then
    used.replace (counted.timerStart
      (info.stLedAction.u16PeroidTime - info.stLedAction.u16DutyTime))
  else if state.ends counted then used.finish counted
  else used.replace (counted.timerStart info.stLedAction.u16DutyTime)

/-- The rest of `_cfg_sysLedAction`, with the outcomes of `hs_malloc` and
`oshalTimerCreate`. -/
def ledBlink (u8LedIdx : Channel) (action : LedAction) (malloc timer : Bool) (state : State) :
    State :=
  if action.u16DutyTime = 0 then state
  else
    let cleared :=
      { state with g_u32LedOverMap := setBit state.g_u32LedOverMap u8LedIdx false }
    let allocated := { cleared with ledger := state.ledger.issue () }
    if !malloc then cleared
    else if !timer then
      { allocated with ledger := allocated.ledger.free () state.ledger.issued }
    else
      let info : LedIoInfo := ⟨state.ledger.issued, action, u8LedIdx, 0, false⟩
      { allocated with
        g_u32LedEnableMap := setBit state.g_u32LedEnableMap u8LedIdx true
        timers := info.timerStart action.u16DutyTime :: state.timers }

inductive Action where
  /-- `_cfg_sysLedAction`, which waits if the channel blinks. -/
  | action (u8LedIdx : Channel) (stLedAction : LedAction) (malloc timer : Bool)
  | poll (malloc timer : Bool)
  /-- The time of a timer is over. `_oshal_timerCb` is to post it to the five entries of
  `g_stTmMail`, and the thread behind them calls `_cfg_sysLedSwAction`. -/
  | expire (block : Nat) (posted : Bool)

def State.noteExpiration (state : State) (channel : Channel) : State :=
  { state with
    waiting := state.waiting.map fun wait =>
      if wait.u8LedIdx = channel then { wait with expirations := wait.expirations + 1 } else wait }

def State.step (state : State) : Action → State
  | .action u8LedIdx stLedAction malloc timer =>
    if state.waiting.isSome then state
    else if state.g_u32LedOverMap u8LedIdx then
      ledBlink u8LedIdx stLedAction malloc timer state
    else
      { state with
        g_u32LedEnableMap := setBit state.g_u32LedEnableMap u8LedIdx false
        waiting := some ⟨u8LedIdx, stLedAction, 0⟩ }
  | .poll malloc timer =>
    match state.waiting with
    | none => state
    | some wait =>
      if state.g_u32LedOverMap wait.u8LedIdx then
        ledBlink wait.u8LedIdx wait.stLedAction malloc timer { state with waiting := none }
      else state
  | .expire block posted =>
    match state.timers.find? fun info => info.block = block && info.started with
    | none => state
    | some info =>
      if posted then (sysLedSwAction info state).noteExpiration info.u8LedIndex
      -- The result of the post is not looked at, and nothing starts the timer again.
      else (state.replace { info with started := false }).noteExpiration info.u8LedIndex

def State.held (state : State) : Unit → List Nat := fun _ => state.timers.map (·.block)

structure Booked (state : State) : Prop where
  bits : ∀ channel, state.g_u32LedOverMap channel = false ↔
    ∃ info ∈ state.timers, info.u8LedIndex = channel
  blocks : Clean state.ledger state.held
  /-- A wait is over, or the channel has a running timer and has seen one expiration
  at most. -/
  wait : ∀ wait, state.waiting = some wait → state.g_u32LedOverMap wait.u8LedIdx = true ∨
      wait.expirations ≤ 1 ∧
        ∃ info ∈ state.timers, info.u8LedIndex = wait.u8LedIdx ∧ info.started = true

def Blinks (action : LedAction) (malloc timer : Bool) : Prop :=
  action.u16DutyTime = 0 ∨ malloc = true ∧ timer = true ∧ action.u16PeroidTime ≠ action.u16DutyTime

instance (action : LedAction) (malloc timer : Bool) : Decidable (Blinks action malloc timer) :=
  inferInstanceAs (Decidable (_ ∨ _))

def KeepsBlinking (state : State) : Action → Prop
  | .action u8LedIdx stLedAction malloc timer =>
    state.waiting = none → state.g_u32LedOverMap u8LedIdx = true → Blinks stLedAction malloc timer
  | .poll malloc timer =>
    ∀ wait, state.waiting = some wait → Blinks wait.stLedAction malloc timer
  | .expire _ posted => posted = true

structure LedInv (state : State) : Prop where
  balanced : Balanced state.ledger state.held
  strays : state.ledger.strays = []
  bits : ∀ channel, state.g_u32LedOverMap channel = false ↔
    channel ∈ state.timers.map (·.u8LedIndex)
  single : (state.timers.map (·.u8LedIndex)).Nodup
  running : ∀ info ∈ state.timers, info.started = true ∧ info.stLedAction.u16DutyTime ≠ 0 ∧
    info.stLedAction.u16PeroidTime ≠ info.stLedAction.u16DutyTime
  wait : ∀ wait, state.waiting = some wait → state.g_u32LedOverMap wait.u8LedIdx = true ∨
      state.g_u32LedEnableMap wait.u8LedIdx = false ∧
        ∃ info ∈ state.timers, info.u8LedIndex = wait.u8LedIdx ∧
          (wait.expirations = 0 ∨ wait.expirations = 1 ∧ info.u8Cnt % 2 ≠ 0)

section

variable {state : State} {info : LedIoInfo}

theorem LedInv.booked (inv : LedInv state) : Booked state := by
  refine ⟨fun channel => ?_, ⟨inv.strays, fun block below => inv.balanced.once below⟩,
    fun wait waits => ?_⟩
  · rw [inv.bits, mem_map]
  · rcases inv.wait wait waits with ended | ⟨_, info, member, same, count⟩
    · exact .inl ended
    · exact .inr ⟨by omega, info, member, same, (inv.running info member).1⟩

theorem LedInv.start : LedInv State.start :=
  ⟨balanced_empty, rfl, fun _ => ⟨nofun, nofun⟩, .nil, nofun, nofun⟩

theorem LedInv.sameBlock (inv : LedInv state) {left right : LedIoInfo}
    (inLeft : left ∈ state.timers) (inRight : right ∈ state.timers)
    (same : left.block = right.block) : left = right :=
  inj_on_of_nodup_map (inv.balanced.nodup ()) inLeft inRight same

theorem LedInv.sameChannel (inv : LedInv state) {left right : LedIoInfo}
    (inLeft : left ∈ state.timers) (inRight : right ∈ state.timers)
    (same : left.u8LedIndex = right.u8LedIndex) : left = right :=
  inj_on_of_nodup_map inv.single inLeft inRight same

theorem LedInv.use_eq (inv : LedInv state) (member : info ∈ state.timers) :
    state.ledger.use () info.block = state.ledger := by
  apply Ledger.use_of_owner
  rw [inv.balanced.owner]
  exact mem_map_of_mem member

variable {channel : Channel}

theorem noteExpiration_waiting {wait : Waiting}
    (waits : (state.noteExpiration channel).waiting = some wait) :
    ∃ before, state.waiting = some before ∧ wait.u8LedIdx = before.u8LedIdx ∧ wait.expirations =
        if before.u8LedIdx = channel then before.expirations + 1 else before.expirations := by
  obtain ⟨before, waited, rfl⟩ := Option.map_eq_some_iff.mp waits
  refine ⟨before, waited, ?_, ?_⟩
  · split <;> rfl
  · split <;> rfl

variable {changed : LedIoInfo}

section

variable (inv : LedInv state)
include inv

theorem LedInv.replaced (member : info ∈ state.timers)
    (block : changed.block = info.block) (channel : changed.u8LedIndex = info.u8LedIndex) :
    (state.replace changed).timers.map (·.block) = state.timers.map (·.block) ∧
      (state.replace changed).timers.map (·.u8LedIndex) = state.timers.map (·.u8LedIndex) ∧
      (∀ other, other ∈ (state.replace changed).timers ↔
        other = changed ∨ other ∈ state.timers ∧ other ≠ info) := by
  have here : ∀ other ∈ state.timers, other.block = changed.block → other = info :=
    fun other inOther same => inv.sameBlock inOther member (same.trans block)
  refine ⟨?_, ?_, fun other => ?_⟩
  · unfold State.replace
    rw [map_map]
    apply map_congr_left
    intro other inOther
    dsimp only [Function.comp_apply]
    split
    · rename_i same
      exact same.symm
    · rfl
  · unfold State.replace
    rw [map_map]
    apply map_congr_left
    intro other inOther
    dsimp only [Function.comp_apply]
    split
    · rename_i same
      rwa [here other inOther same]
    · rfl
  · unfold State.replace
    rw [mem_map]
    constructor
    · rintro ⟨_, inBefore, rfl⟩
      split
      · exact .inl rfl
      · rename_i different
        refine .inr ⟨inBefore, ?_⟩
        rintro rfl
        exact different block.symm
    · rintro (rfl | ⟨inOther, different⟩)
      · exact ⟨info, member, if_pos block.symm⟩
      · exact ⟨other, inOther, if_neg fun same => different (here other inOther same)⟩

theorem LedInv.goesOn (member : info ∈ state.timers)
    (block : changed.block = info.block) (channel : changed.u8LedIndex = info.u8LedIndex)
    (action : changed.stLedAction = info.stLedAction) (started : changed.started)
    (dark : state.g_u32LedEnableMap info.u8LedIndex ∨ info.u8Cnt % 2 = 0 ∧ changed.u8Cnt % 2 ≠ 0) :
    LedInv ((state.replace changed).noteExpiration info.u8LedIndex) := by
  obtain ⟨blocks, channels, members⟩ := inv.replaced member block channel
  refine ⟨?_, inv.strays, ?_, ?_, ?_, ?_⟩
  · change Balanced state.ledger fun _ => (state.replace changed).timers.map (·.block)
    rw [blocks]
    exact inv.balanced
  · intro other
    change _ ↔ other ∈ (state.replace changed).timers.map (·.u8LedIndex)
    rw [channels]
    exact inv.bits other
  · change ((state.replace changed).timers.map (·.u8LedIndex)).Nodup
    rw [channels]
    exact inv.single
  · intro other inOther
    rcases (members other).mp inOther with rfl | ⟨before, _⟩
    · rw [action]
      exact ⟨started, (inv.running info member).2⟩
    · exact inv.running other before
  · intro _ waits
    obtain ⟨before, waited, same, expirations⟩ := noteExpiration_waiting waits
    rw [same, expirations]
    rcases inv.wait before waited with ended | ⟨disabled, blinking, inBlinking, its, count⟩
    · exact .inl ended
    · refine .inr ⟨disabled, ?_⟩
      by_cases here : before.u8LedIdx = info.u8LedIndex
      · -- The thread waits for this timer, which was in the half with light.
        obtain rfl := inv.sameChannel inBlinking member (its.trans here)
        rw [if_pos here]
        rcases dark with enabled | ⟨even, odd⟩
        · rw [← here, disabled] at enabled
          cases enabled
        · rcases count with none | ⟨_, wasOdd⟩
          · exact ⟨changed, (members changed).mpr (.inl rfl), channel.trans its,
              .inr ⟨congrArg (· + 1) none, odd⟩⟩
          · exact absurd even wasOdd
      · rw [if_neg here]
        refine ⟨blinking, (members blinking).mpr (.inr ⟨inBlinking, ?_⟩), its, count⟩
        rintro rfl
        exact here its.symm

theorem held_finish (info : LedIoInfo) : (state.finish info).held =
    Function.update state.held () ((state.held ()).erase info.block) := by
  have nodup := inv.balanced.nodup ()
  funext party
  rw [show party = () from rfl, Function.update_self, nodup.erase_eq_filter]
  unfold State.held State.finish
  rw [List.filter_map]
  congr 1
  apply filter_congr
  intro other _
  by_cases same : other.block = info.block <;> simp [same]

theorem LedInv.finished (member : info ∈ state.timers) :
    LedInv ((state.finish info).noteExpiration info.u8LedIndex) := by
  have others : ∀ other, other ∈ (state.finish info).timers ↔
      other ∈ state.timers ∧ other ≠ info := by
    intro other
    unfold State.finish
    rw [mem_filter, decide_eq_true_eq]
    refine and_congr_right fun inOther => not_congr ⟨fun same => ?_, fun same => same ▸ rfl⟩
    exact inv.sameBlock inOther member same
  have released : info.block ∈ state.held () := mem_map_of_mem member
  refine ⟨?_, ?_, ?_, ?_, ?_, ?_⟩
  · change Balanced (state.ledger.free () info.block) (state.finish info).held
    rw [held_finish inv info]
    exact inv.balanced.release released
  · change (state.ledger.use () info.block).strays = []
    rw [inv.use_eq member]
    exact inv.strays
  · intro channel
    change (if channel = info.u8LedIndex then true else state.g_u32LedOverMap channel) = false ↔
      channel ∈ (state.finish info).timers.map (·.u8LedIndex)
    rw [mem_map]
    split
    · next here =>
      refine ⟨nofun, ?_⟩
      rintro ⟨other, inOther, same⟩
      obtain ⟨before, different⟩ := (others other).mp inOther
      exact absurd (inv.sameChannel before member (same.trans here)) different
    · next here =>
      rw [inv.bits, mem_map]
      constructor
      · rintro ⟨other, inOther, same⟩
        refine ⟨other, (others other).mpr ⟨inOther, ?_⟩, same⟩
        rintro rfl
        exact here same.symm
      · rintro ⟨other, inOther, same⟩
        exact ⟨other, ((others other).mp inOther).1, same⟩
  · exact inv.single.sublist ((filter_sublist).map _)
  · intro other inOther
    exact inv.running other ((others other).mp inOther).1
  · intro _ waits
    obtain ⟨before, waited, same, expirations⟩ := noteExpiration_waiting waits
    rw [same, expirations]
    change (if before.u8LedIdx = info.u8LedIndex then true
      else state.g_u32LedOverMap before.u8LedIdx) ∨ _
    by_cases here : before.u8LedIdx = info.u8LedIndex
    · exact .inl (if_pos here)
    · rw [if_neg here, if_neg here]
      rcases inv.wait before waited with ended | ⟨disabled, blinking, inBlinking, its, count⟩
      · exact .inl ended
      · refine .inr ⟨disabled, blinking, (others blinking).mpr ⟨inBlinking, ?_⟩, its, count⟩
        rintro rfl
        exact here its.symm

end

theorem u8Cnt_parity (count : UInt8) (odd : (count + 1) % 2 ≠ 0) : count % 2 = 0 := by
  grind

theorem half_ne_zero {period duty : UInt16} (halves : period ≠ duty) : period - duty ≠ 0 := by
  grind

theorem LedInv.expired (inv : LedInv state) (member : info ∈ state.timers) :
    LedInv ((sysLedSwAction info state).noteExpiration info.u8LedIndex) := by
  obtain ⟨_, duty, halves⟩ := inv.running info member
  unfold sysLedSwAction
  rw [inv.use_eq member]
  dsimp only
  split
  · rename_i odd
    exact inv.goesOn member rfl rfl rfl (decide_eq_true (half_ne_zero halves))
      (.inr ⟨u8Cnt_parity _ odd, odd⟩)
  · split
    · change LedInv ((state.finish info).noteExpiration info.u8LedIndex)
      exact inv.finished member
    · rename_i goes
      refine inv.goesOn member rfl rfl rfl (decide_eq_true duty) (.inl ?_)
      unfold State.ends at goes
      cases enabled : state.g_u32LedEnableMap info.u8LedIndex with
      | true => rfl
      | false =>
        rw [enabled] at goes
        exact absurd rfl goes

theorem LedInv.blink (inv : LedInv state) (quiet : state.waiting = none)
    (ended : state.g_u32LedOverMap channel) {action : LedAction} {malloc timer : Bool}
    (blinks : Blinks action malloc timer) :
    LedInv (ledBlink channel action malloc timer state) := by
  unfold ledBlink
  split
  · exact inv
  · rename_i duty
    obtain ⟨rfl, rfl, halves⟩ := blinks.resolve_left duty
    have free : channel ∉ state.timers.map (·.u8LedIndex) := by
      rw [← inv.bits, ended]
      nofun
    refine ⟨?_, inv.strays, fun other => ?_, nodup_cons.mpr ⟨free, inv.single⟩, ?_, ?_⟩
    · have issued := inv.balanced.issue ()
      refine issued.perm fun party => ?_
      exact .refl _
    · change (if other = channel then false else state.g_u32LedOverMap other) = false ↔
        other ∈ channel :: state.timers.map (·.u8LedIndex)
      rw [mem_cons]
      split
      · next here =>
        exact ⟨fun _ => .inl here, fun _ => rfl⟩
      · next here =>
        rw [inv.bits]
        exact ⟨Or.inr, fun cases => cases.resolve_left here⟩
    · exact forall_mem_cons.mpr ⟨⟨decide_eq_true duty, duty, halves⟩, inv.running⟩
    · intro _ waits
      rw [quiet] at waits
      cases waits

theorem LedInv.step (inv : LedInv state) {action : Action} (blinks : KeepsBlinking state action) :
    LedInv (state.step action) := by
  cases action with
  | action channel =>
    unfold State.step
    dsimp only
    cases waits : state.waiting with
    | some => exact inv
    | none =>
      cases ended : state.g_u32LedOverMap channel with
      | true => exact inv.blink waits ended (blinks waits ended)
      | false =>
        refine { inv with wait := ?_ }
        intro wait isWait
        obtain rfl := Option.some.inj isWait
        obtain ⟨info, member, same⟩ := mem_map.mp ((inv.bits channel).mp ended)
        exact .inr ⟨if_pos rfl, info, member, same, .inl rfl⟩
  | poll malloc timer =>
    unfold State.step
    cases waits : state.waiting with
    | none => exact inv
    | some wait =>
      dsimp only
      split
      · rename_i ended
        have woken : LedInv { state with waiting := none } :=
          { inv with wait := nofun }
        exact woken.blink rfl ended (blinks wait waits)
      · exact inv
  | expire block posted =>
    obtain rfl : posted = true := blinks
    unfold State.step
    dsimp only
    cases found : state.timers.find? fun info => info.block = block && info.started with
    | none => exact inv
    | some => exact inv.expired (List.mem_of_find?_eq_some found)

end

instance (state : State) (action : Action) : Decidable (KeepsBlinking state action) := by
  unfold KeepsBlinking
  cases action with
  | action | expire => infer_instance
  | poll malloc timer =>
    dsimp only
    cases state.waiting with
    | none => exact isTrue nofun
    | some wait =>
      exact decidable_of_iff (Blinks wait.stLedAction malloc timer)
        ⟨fun blinks _ same => Option.some.inj same ▸ blinks, fun all => all wait rfl⟩

theorem led_bookkeeping (actions : List Action)
    (blinks : Along State.step KeepsBlinking State.start actions) :
    Booked (actions.foldl State.step State.start) := by
  have preserved : ∀ state action, LedInv state → KeepsBlinking state action →
      LedInv (state.step action) := fun _ _ inv blinks => inv.step blinks
  exact (invariant_of_along preserved LedInv.start blinks).booked

/-- Two blinks on one channel: the second waits for two expirations of the first. -/
theorem led_bookkeeping_twice :
    Booked ([.action 3 ⟨500, 100, 0⟩ true true, .action 3 ⟨300, 200, 1⟩ true true, .expire 0 true,
      .poll true true, .expire 0 true, .poll true true, .expire 1 true].foldl State.step
        State.start) :=
  led_bookkeeping _ (by decide)

/-- No memory for the argument, no memory for the timer, a half of 0 ms, and a timer that is not
posted: six channels on one tick fill the mailbox. -/
theorem led_bookkeeping_stuck :
    ¬Booked ([.action 3 ⟨500, 100, 0⟩ false true].foldl State.step State.start) ∧
      ¬Booked ([.action 3 ⟨500, 100, 0⟩ true false].foldl State.step State.start) ∧
      ¬Booked ([.action 3 ⟨100, 100, 1⟩ true true, .expire 0 true,
        .action 3 ⟨500, 100, 0⟩ true true].foldl State.step State.start) ∧
      ¬Booked ([.action 3 ⟨500, 100, 0⟩ true true, .expire 0 false,
        .action 3 ⟨500, 100, 0⟩ true true].foldl State.step State.start) := by
  refine ⟨fun booked => ?_, fun booked => ?_, fun booked => ?_, fun booked => ?_⟩
  · obtain ⟨info, member, _⟩ := (booked.bits 3).mp rfl
    cases member
  · obtain ⟨info, member, _⟩ := (booked.bits 3).mp rfl
    cases member
  all_goals
    rcases booked.wait ⟨3, ⟨500, 100, 0⟩, 0⟩ rfl with ended | ⟨_, info, member, _, started⟩
    · cases ended
    · obtain rfl := mem_singleton.mp member
      cases started

end Hfirmware.System.Led
