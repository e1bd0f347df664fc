/-
The button timer behind its mailbox of five; stopping the timer does not take back what
has been posted.
-/

import Hfirmware.GuardedRun
import Hfirmware.System.Button

namespace Hfirmware.System

open List GuardedRun

inductive TimerId where
  | bnTimer | other
deriving DecidableEq

def tmQueueCnt : Nat := 5

/-- The mailbox, the virtual timer of the buttons and their record, with the
events sent. `stopping` holds between `u8Pd = 0` and `oshalTimerStop` at the end
of the handler. -/
structure TimerSystem where
  g_stTmMail : List TimerId
  armed : Bool
  g_stBnInfo : BnInfo
  stopping : Bool
  sent : List BnEvent

def TimerSystem.start : TimerSystem :=
  { g_stTmMail := []
    armed := false
    g_stBnInfo := .zero
    stopping := false
    sent := [] }

def TimerSystem.post (system : TimerSystem) (timer : TimerId) : TimerSystem :=
  if system.g_stTmMail.length < tmQueueCnt then
    { system with g_stTmMail := system.g_stTmMail ++ [timer] }
  else system

def hsCfgSysBnPressed (attr : BnAttr) (system : TimerSystem) : TimerSystem :=
  if system.g_stBnInfo.u8Pd then system
  else
    { system with
      g_stBnInfo := bnStarted attr
      -- `oshalTimerStart` refuses a period of 0.
      armed := attr.u8DebounceTime ≠ 0 }

/-- One turn of `_oshal_timerServeThd`, up to the `oshalTimerStop` of the handler. -/
def oshalTimerServeThd (attr : BnAttr) (system : TimerSystem) (sample : Sample) : TimerSystem :=
  match system.g_stTmMail with
  | [] => system
  | .other :: rest => { system with g_stTmMail := rest }
  | .bnTimer :: rest =>
    let ticked := cfgSysBnTimer attr system.g_stBnInfo sample
    { system with
      g_stTmMail := rest
      g_stBnInfo := ticked.info
      stopping := ticked.ended
      sent := system.sent ++ ticked.sent }

inductive TimerAction where
  | expire | otherExpires
  | serve (sample : Sample)
  | stop | pressed

def TimerSystem.step (attr : BnAttr) (system : TimerSystem) : TimerAction → TimerSystem
  | .expire => if system.armed then system.post .bnTimer else system
  | .otherExpires => system.post .other
  | .serve sample => if system.stopping then system else oshalTimerServeThd attr system sample
  | .stop => if system.stopping then { system with armed := false, stopping := false } else system
  | .pressed => hsCfgSysBnPressed attr system

def TimerSystem.run (attr : BnAttr) (system : TimerSystem) (actions : List TimerAction) :
    TimerSystem :=
  actions.foldl (TimerSystem.step attr) system

structure PressLog where
  (isDown clicked : Bool)

variable {log : PressLog}

def PressLog.next (log : PressLog) (bnType : BnType) : Option PressLog :=
  match bnType with
  | .pressDown => if log.isDown then none else some { isDown := true, clicked := false }
  | .pressRelease => if log.isDown then some { log with isDown := false } else none
  | .singleClick | .doubleClick | .combinationKey =>
    if log.clicked then none else some { log with clicked := true }
  | .longPress | .verylongPress | .keyRepeat => some log

def pressLog (log : PressLog) (sent : List BnEvent) : Option PressLog :=
  sent.foldlM (fun log event => log.next event.bnType) log

def Paired (sent : List BnEvent) : Prop :=
  (pressLog { isDown := false, clicked := true } sent).isSome = true

instance (sent : List BnEvent) : Decidable (Paired sent) := inferInstanceAs (Decidable (_ = _))

def TickExpected (system : TimerSystem) : TimerAction → Prop
  | .serve _ => system.stopping = false → system.g_stTmMail.head? = some .bnTimer →
      system.g_stBnInfo.u8Pd = true
  | _ => True

instance (system : TimerSystem) (action : TimerAction) : Decidable (TickExpected system action) :=
  match action with
  | .serve _ => inferInstanceAs (Decidable (_ → _ → _))
  | .expire | .otherExpires | .stop | .pressed => isTrue trivial

section

variable {sent : List BnEvent}

theorem pressLog_held (held : ∀ event ∈ sent, event.bnType ∈
    [BnType.keyRepeat, .verylongPress, .longPress]) : pressLog log sent = some log := by
  induction sent with
  | nil => rfl
  | cons event _ ih =>
    have kept : log.next event.bnType = some log := by
      have kind := held event (.head _)
      simp only [mem_cons, not_mem_nil, or_false] at kind
      rcases kind with same | same | same <;> rw [same] <;> rfl
    have later := ih fun other member => held other (mem_cons_of_mem event member)
    unfold pressLog at later ⊢
    rwa [foldlM_cons, kept]

theorem pressLog_down (map : BitVec 32) (closed : log.isDown = false) :
    pressLog log [⟨map, .pressDown⟩] = some { isDown := true, clicked := false } := by
  cases log with
  | mk =>
    cases closed
    rfl

theorem pressLog_over {map : BitVec 32} (isOpen : log.isDown)
    (unclicked : log.clicked = false) (ends : sent = [⟨map, .pressRelease⟩] ∨
      ∃ click ∈ [BnType.singleClick, .doubleClick, .combinationKey],
        sent = [⟨map, .pressRelease⟩, ⟨map, click⟩]) :
    ∃ later, pressLog log sent = some later ∧ later.isDown = false := by
  cases log with
  | mk =>
    cases isOpen
    cases unclicked
    rcases ends with rfl | ⟨click, kind, rfl⟩
    · exact ⟨_, rfl, rfl⟩
    · simp only [mem_cons, not_mem_nil, or_false] at kind
      rcases kind with rfl | rfl | rfl <;> exact ⟨_, rfl, rfl⟩

end

structure PairedSoFar (system : TimerSystem) (log : PressLog) : Prop where
  events : pressLog { isDown := false, clicked := true } system.sent = some log
  resting : system.g_stBnInfo.u8Pd = false → log.isDown = false
  pressing : system.g_stBnInfo.u8Pd = true → system.g_stBnInfo.Waiting ∧ log.isDown = false ∨
      system.g_stBnInfo.Down ∧ log.isDown = true ∧ log.clicked = false

section

variable {attr : BnAttr} {system : TimerSystem}

section

variable (events : pressLog { isDown := false, clicked := true } system.sent = some log)
include events

theorem PairedSoFar.of_resting
    (resting : system.g_stBnInfo.u8Pd = false) (closed : log.isDown = false) :
    PairedSoFar system log := by
  refine ⟨events, fun _ => closed, fun pressing => ?_⟩
  rw [resting] at pressing
  cases pressing

theorem PairedSoFar.of_pressing
    (pressing : system.g_stBnInfo.u8Pd) (phase : system.g_stBnInfo.Waiting ∧ log.isDown = false ∨
      system.g_stBnInfo.Down ∧ log.isDown ∧ log.clicked = false) : PairedSoFar system log := by
  refine ⟨events, fun resting => ?_, fun _ => phase⟩
  rw [pressing] at resting
  cases resting

end

section

variable (paired : PairedSoFar system log)
include paired

variable {after : TimerSystem}

theorem PairedSoFar.of_eq (info : after.g_stBnInfo = system.g_stBnInfo)
    (sent : after.sent = system.sent) : PairedSoFar after log :=
  ⟨sent ▸ paired.events, info ▸ paired.resting, info ▸ paired.pressing⟩

theorem PairedSoFar.post (timer : TimerId) : PairedSoFar (system.post timer) log := by
  unfold TimerSystem.post
  split
  · exact paired.of_eq rfl rfl
  · exact paired

theorem PairedSoFar.pressed : PairedSoFar (hsCfgSysBnPressed attr system) log := by
  unfold hsCfgSysBnPressed
  cases going : system.g_stBnInfo.u8Pd with
  | true => exact paired
  | false =>
    exact .of_pressing paired.events rfl (.inl ⟨bnStarted_waiting attr, paired.resting going⟩)

theorem PairedSoFar.tick (going : system.g_stBnInfo.u8Pd) (sample : Sample)
    (info : after.g_stBnInfo = (cfgSysBnTimer attr system.g_stBnInfo sample).info)
    (sent : after.sent = system.sent ++ (cfgSysBnTimer attr system.g_stBnInfo sample).sent) :
    ∃ later, PairedSoFar after later := by
  have kept := cfgSysBnTimer_u8Pd attr system.g_stBnInfo sample
  rw [going, Bool.and_true, ← info] at kept
  have extended : pressLog { isDown := false, clicked := true } after.sent =
      pressLog log (cfgSysBnTimer attr system.g_stBnInfo sample).sent := by
    rw [sent, pressLog, foldlM_append, ← pressLog, paired.events]
    rfl
  rcases paired.pressing going with ⟨waiting, closed⟩ | ⟨down, isOpen, unclicked⟩
  · rcases @cfgSysBnTimer_waiting attr _ sample waiting with
      ⟨ended, none⟩ | ⟨on, none, still⟩ | ⟨on, found, nowDown⟩
    · rw [ended] at kept
      rw [none] at extended
      exact ⟨log, .of_resting extended kept closed⟩
    · rw [on] at kept
      rw [none] at extended
      exact ⟨log, .of_pressing extended kept (.inl ⟨info ▸ still, closed⟩)⟩
    · rw [on] at kept
      rw [found, pressLog_down _ closed] at extended
      exact ⟨_, .of_pressing extended kept (.inr ⟨info ▸ nowDown, rfl, rfl⟩)⟩
  · rcases @cfgSysBnTimer_down attr _ sample down with ⟨on, still, held⟩ | ⟨ended, map, ends⟩
    · rw [on] at kept
      rw [pressLog_held held] at extended
      exact ⟨log, .of_pressing extended kept (.inr ⟨info ▸ still, isOpen, unclicked⟩)⟩
    · rw [ended] at kept
      obtain ⟨later, ended, closed⟩ := pressLog_over isOpen unclicked ends
      exact ⟨later, .of_resting (extended.trans ended) kept closed⟩

theorem PairedSoFar.step {action : TimerAction} (expected : TickExpected system action) :
    ∃ later, PairedSoFar (system.step attr action) later := by
  cases action with
  | expire =>
    rw [TimerSystem.step]
    split
    · exact ⟨log, paired.post .bnTimer⟩
    · exact ⟨log, paired⟩
  | otherExpires => exact ⟨log, paired.post .other⟩
  | serve sample =>
    rw [TimerSystem.step]
    cases stopping : system.stopping with
    | true => exact ⟨log, paired⟩
    | false =>
      rw [if_neg nofun, oshalTimerServeThd]
      cases mail : system.g_stTmMail with
      | nil => exact ⟨log, paired⟩
      | cons timer =>
        cases timer with
        | other => exact ⟨log, paired.of_eq rfl rfl⟩
        | bnTimer =>
          have going := expected stopping (by rw [mail]; rfl)
          exact paired.tick going sample rfl rfl
  | stop =>
    rw [TimerSystem.step]
    split
    · exact ⟨log, paired.of_eq rfl rfl⟩
    · exact ⟨log, paired⟩
  | pressed => exact ⟨log, paired.pressed⟩

end

theorem PairedSoFar.start : PairedSoFar .start { isDown := false, clicked := true } :=
  ⟨rfl, fun _ => rfl, nofun⟩

end

theorem paired_of_tickExpected (attr : BnAttr) (actions : List TimerAction)
    (expected : Along (TimerSystem.step attr) TickExpected .start actions) :
    Paired (TimerSystem.start.run attr actions).sent := by
  have preserved : ∀ system action, (∃ log, PairedSoFar system log) →
      TickExpected system action → ∃ log, PairedSoFar (system.step attr action) log :=
    fun _ _ ⟨_, paired⟩ served => paired.step served
  obtain ⟨log, paired⟩ :=
    invariant_of_along preserved ⟨_, PairedSoFar.start⟩ expected
  unfold Paired TimerSystem.run
  rw [paired.events]
  rfl

def quickAttr : BnAttr :=
  { oneKeyAttr with
    u16SingleRepeatInterval := 0
    u8DebounceNumber := 0
    debounceNumber_lt := by decide }

/-- Two clicks; the second press begins before a tick that the first has left
over is served. -/
theorem paired_of_tickExpected_two_clicks : Paired (TimerSystem.start.run quickAttr
    [.pressed, .expire, .serve keyDown, .otherExpires, .expire, .expire, .serve keyUp,
      .serve keyUp, .stop, .pressed, .serve keyDown, .expire, .serve keyUp, .stop]).sent :=
  paired_of_tickExpected quickAttr _ (by decide +kernel)

/-- A press of 200 ms; the tick that ends it with release and click has another
one behind it in the mailbox, which sends both again. -/
theorem not_paired_stale_tick : ¬Paired (TimerSystem.start.run oneKeyAttr
    ([.pressed] ++ (List.replicate 20 [.expire, .serve keyDown]).flatten ++
      (List.replicate 80 [.expire, .serve keyUp]).flatten ++
        [.expire, .expire, .serve keyUp, .stop, .serve keyUp])).sent := by
  decide +kernel

end Hfirmware.System
