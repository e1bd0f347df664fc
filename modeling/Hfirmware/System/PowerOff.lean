/-
Switching off by messages.
-/

import Hfirmware.System.Message

namespace Hfirmware.System.PowerOff

open List

/-! ### Handlers and tables -/

def hsPmuChipPrePowerOff : Nat := 1

def hsPmuChipPowerOff : Nat := 2

def hsPlayerDestroy : Nat := 3

def hsPlayerCreateMusic : Nat := 4

def hsPlayerCreateFm : Nat := 5

def hsPlayerCreateUsbaudio : Nat := 6

def hsPlayerCreateAux : Nat := 7

/-- Bluetooth, recorder, speaker, deep sleep and the other operations of the player
neither make or destroy a player nor switch off. -/
def otherHandler (k : Nat) : Nat := 8 + k

def hsCfgModuleSys : Nat := 1

def hsCfgModulePlayer : Nat := 5

def eventBtAudioStop : BitVec 16 := 0x11

def eventPmuPoweroff : BitVec 16 := 0x13

def eventPrePoweroff : BitVec 16 := 0x16

def eventPlayerDestroy : BitVec 16 := 0xD0

def statusPowerOff : BitVec 16 := 0x10

def systemEventOper : List MessOper :=
  [⟨0x10, some (otherHandler 0)⟩, ⟨eventBtAudioStop, some (otherHandler 1)⟩,
    ⟨0x0E, some (otherHandler 2)⟩, ⟨0x0F, some (otherHandler 3)⟩,
    ⟨0x15, some (otherHandler 4)⟩, ⟨0x17, some (otherHandler 5)⟩,
    ⟨eventPrePoweroff, some hsPmuChipPrePowerOff⟩, ⟨eventPmuPoweroff, some hsPmuChipPowerOff⟩,
    ⟨0x14, some (otherHandler 6)⟩, ⟨0, none⟩]

def sysPlayerEventOper : List MessOper :=
  [⟨eventPlayerDestroy, some hsPlayerDestroy⟩, ⟨0xD1, some hsPlayerCreateMusic⟩,
    ⟨0xD2, some hsPlayerCreateFm⟩, ⟨0xD3, some hsPlayerCreateUsbaudio⟩,
    ⟨0xD4, some hsPlayerCreateAux⟩, ⟨0xD6, some (otherHandler 7)⟩, ⟨0xD7, some (otherHandler 8)⟩,
    ⟨0xD8, some (otherHandler 9)⟩, ⟨0xD9, some (otherHandler 10)⟩,
    ⟨0xDA, some (otherHandler 11)⟩, ⟨0xDB, some (otherHandler 12)⟩,
    ⟨0xDC, some (otherHandler 13)⟩, ⟨0xDD, some (otherHandler 14)⟩,
    ⟨0xDE, some (otherHandler 15)⟩, ⟨0xDF, some (otherHandler 16)⟩,
    ⟨0xE2, some (otherHandler 17)⟩, ⟨0xE3, some (otherHandler 18)⟩, ⟨0, none⟩]

def systemStatusOper : List MessOper := [⟨statusPowerOff, some hsPmuChipPowerOff⟩, ⟨0, none⟩]

def sysServices (others : Services) : Services :=
  { g_pstSysEventOper := fun eMod =>
      if eMod = hsCfgModuleSys then systemEventOper
      else if eMod = hsCfgModulePlayer then sysPlayerEventOper
      else others.g_pstSysEventOper eMod
    g_pstSysStatusOper := fun eMod =>
      if eMod = hsCfgModuleSys then systemStatusOper else others.g_pstSysStatusOper eMod
    g_pstEventOper := others.g_pstEventOper }

def systemReqArg (u16Msg : BitVec 16) (parg : Nat) : SysMsg :=
  ⟨hsCfgModuleSys, .sysEvent, u16Msg, parg⟩

def systemReq (u16Msg : BitVec 16) : SysMsg := systemReqArg u16Msg 0

def playerReq (u16Msg : BitVec 16) : SysMsg := ⟨hsCfgModulePlayer, .sysEvent, u16Msg, 0⟩

inductive Event where
  | destroyed | flushed
deriving DecidableEq

/-- The messages, whether there is a player, what has been executed since the request,
and whether the chip is off. -/
structure Board where
  sys : SysState
  player : Bool
  history : List Event
  poweredOff : Bool

inductive Creation where
  | done | noPlayer | incomplete

structure Outcome where
  creation : Creation
  (destroyAllocated stopAllocated : Bool)

namespace Board

def send (board : Board) (stMsg : SysMsg) (allocated : Bool) : Board :=
  { board with sys := (hsCfgSysSendMsg board.sys stMsg allocated).2 }

def flush (board : Board) : Board := { board with history := board.history ++ [.flushed] }

def playerDestroy (board : Board) : Board :=
  if board.player then
    flush { board with player := false, history := board.history ++ [.destroyed] }
  else board

def playerCreate (board : Board) : Creation → Board
  | .done => { board.playerDestroy with player := true }
  | .noPlayer => board.playerDestroy
  | .incomplete => { board.playerDestroy with player := true }.playerDestroy

def chipPrePowerOff (board : Board) (outcome : Outcome) : Board :=
  (board.flush.send (playerReq eventPlayerDestroy) outcome.destroyAllocated).send
    (systemReq eventBtAudioStop) outcome.stopAllocated

end Board

def creators : List Nat :=
  [hsPlayerCreateMusic, hsPlayerCreateFm, hsPlayerCreateUsbaudio, hsPlayerCreateAux]

def Board.call (outcome : Outcome) (board : Board) (call : Call) : Board :=
  if board.poweredOff then board
  else if call.handler = hsPlayerDestroy then board.playerDestroy
  else if call.handler ∈ creators then board.playerCreate outcome.creation
  else if call.handler = hsPmuChipPrePowerOff then board.chipPrePowerOff outcome
  else if call.handler = hsPmuChipPowerOff then { board with poweredOff := true }
  else board

def Board.serve (services : Services) (outcome : Outcome) (board : Board) : Board :=
  match board.sys.g_pstMess with
  | [] => board
  | stMsg :: _ =>
    if board.poweredOff then board
    else (cfgSysDoMessage services board.sys.g_u32FastEvent stMsg).calls.foldl
      (Board.call outcome) { board with sys := cfgSysServiceThread services board.sys }

inductive Action where
  | serve (outcome : Outcome)
  | send (stMsg : SysMsg) (allocated : Bool)
  | setFastEvent (u32Cnt : Nat)

def Board.step (services : Services) (board : Board) : Action → Board
  | .serve outcome => board.serve services outcome
  | .send stMsg allocated => board.send stMsg allocated
  | .setFastEvent u32Cnt => { board with sys := { board.sys with g_u32FastEvent := u32Cnt } }

def Board.run (services : Services) (board : Board) (actions : List Action) : Board :=
  actions.foldl (Board.step services) board

inductive PowerOnMode where
  | button | switch
deriving DecidableEq

/-- What a scan reads: the power pin, the counters, and what the scans of the other
devices post before and after it. -/
structure Scan where
  u8PowerOnMode : PowerOnMode
  u8Status : Bool
  u8Cnt : UInt8
  u8ScanEnable : Bool
  (u32Cnt u32NextPoint u8PdType : Nat)
  (adc devices : List SysMsg)

namespace Scan

def powerByButton (scan : Scan) : List SysMsg :=
  if scan.u8ScanEnable then
    if scan.u8Status then
      if scan.u8Cnt > 30 then [⟨hsCfgModuleSys, .sysStatus, statusPowerOff, 0⟩] else []
    else if scan.u8Cnt + 1 = 30 then [systemReq eventPrePoweroff] else []
  else []

def PinRequests (scan : Scan) : Prop :=
  scan.u8PowerOnMode = .switch ∧ scan.u8Status = true ∧ scan.u8Cnt + 1 = 10

instance (scan : Scan) : Decidable scan.PinRequests := inferInstanceAs (Decidable (_ ∧ _ ∧ _))

def scanPowerPin (scan : Scan) : List SysMsg :=
  match scan.u8PowerOnMode with
  | .button => scan.powerByButton
  | .switch =>
    let u8Cnt := if scan.u8Status then scan.u8Cnt + 1 else 0
    if u8Cnt = 10 then
      [playerReq eventPlayerDestroy, systemReq eventBtAudioStop, systemReq eventPrePoweroff,
        systemReq eventPmuPoweroff]
    else []

def AutoRequests (scan : Scan) : Prop :=
  scan.u32NextPoint ≠ 0 ∧ scan.u32NextPoint = u32 (scan.u32Cnt + 1)

instance (scan : Scan) : Decidable scan.AutoRequests := inferInstanceAs (Decidable (_ ∧ _))

def posts (scan : Scan) : List SysMsg :=
  scan.adc ++ scan.scanPowerPin ++ scan.devices ++
    (if u32 (scan.u32Cnt + 1) % 20 = 0 then [systemReq 0] else []) ++
    if scan.AutoRequests then
      [systemReq eventBtAudioStop, systemReq eventPrePoweroff,
        systemReqArg eventPmuPoweroff scan.u8PdType]
    else []

end Scan

def Board.scanned (board : Board) (scan : Scan) : Board :=
  scan.posts.foldl (fun board stMsg => board.send stMsg true) { board with history := [] }

def Saved (history : List Event) : Prop :=
  ∃ front back, history = front ++ .destroyed :: back ∧ .flushed ∈ back

def Saves (services : Services) (board : Board) : Prop :=
  ∀ actions, (board.run services actions).poweredOff = true →
    Saved (board.run services actions).history

def firstOf : List Call → Option Bool
  | [] => none
  | call :: rest =>
    if call.handler = hsPlayerDestroy ∨ call.handler ∈ creators then some true
    else if call.handler = hsPmuChipPowerOff then some false
    else firstOf rest

def Prepared (services : Services) : List SysMsg → Prop
  | [] => False
  | stMsg :: rest => ∀ u32FastEvent,
      match firstOf (cfgSysDoMessage services u32FastEvent stMsg).calls with
      | some true => True
      | some false => False
      | none => Prepared services rest

variable {history : List Event}

theorem Saved.append (saved : Saved history) (more : List Event) : Saved (history ++ more) := by
  obtain ⟨front, back, rfl, flushed⟩ := saved
  exact ⟨front, back ++ more, by rw [append_assoc, cons_append],
    mem_append_left more flushed⟩

theorem Saved.destroyed_mem (saved : Saved history) : .destroyed ∈ history := by
  obtain ⟨front, _, rfl, _⟩ := saved
  exact mem_append_right front (.head _)

def Grows (before after : Board) : Prop := ∃ more, after.history = before.history ++ more

theorem Grows.refl (board : Board) : Grows board board := ⟨[], (append_nil _).symm⟩

theorem Grows.trans {first second third : Board} (left : Grows first second)
    (right : Grows second third) : Grows first third := by
  obtain ⟨one, same⟩ := left
  obtain ⟨two, equal⟩ := right
  exact ⟨one ++ two, by rw [equal, same, append_assoc]⟩

theorem Grows.saved {before after : Board} (grows : Grows before after)
    (saved : Saved before.history) : Saved after.history := by
  obtain ⟨more, same⟩ := grows
  rw [same]
  exact saved.append more

section

variable {board : Board} {outcome : Outcome} {call : Call}

theorem grows_playerDestroy (board : Board) : Grows board board.playerDestroy := by
  unfold Board.playerDestroy
  split
  · exact ⟨[.destroyed, .flushed], append_assoc _ _ _⟩
  · exact Grows.refl board

theorem grows_call (outcome : Outcome) (board : Board) (call : Call) :
    Grows board (board.call outcome call) := by
  unfold Board.call
  split
  · exact Grows.refl board
  · split
    · exact grows_playerDestroy board
    · split
      · cases outcome.creation with
        | done | noPlayer => exact grows_playerDestroy board
        | incomplete =>
          exact (grows_playerDestroy board).trans
            (grows_playerDestroy { board.playerDestroy with player := true })
      · split
        · exact ⟨[.flushed], rfl⟩
        · split <;> exact Grows.refl board

theorem playerDestroy_saved (playing : board.player) : Saved board.playerDestroy.history := by
  unfold Board.playerDestroy
  rw [if_pos playing]
  exact ⟨board.history, [.flushed], append_assoc _ _ _, mem_singleton_self _⟩

theorem call_saved (awake : board.poweredOff = false) (playing : board.player)
    (destroys : call.handler = hsPlayerDestroy ∨ call.handler ∈ creators) :
    Saved (board.call outcome call).history := by
  unfold Board.call
  rw [if_neg (by rw [awake]; exact nofun)]
  split
  · exact playerDestroy_saved playing
  · rename_i other
    rw [if_pos (destroys.resolve_left other)]
    cases outcome.creation with
    | done | noPlayer => exact playerDestroy_saved playing
    | incomplete =>
      exact (grows_playerDestroy { board.playerDestroy with player := true }).saved
        (playerDestroy_saved playing)

structure Waiting (before after : Board) : Prop where
  awake : after.poweredOff = false
  playing : after.player = true
  queue : ∃ more, after.sys.g_pstMess = before.sys.g_pstMess ++ more
  unsaved : .destroyed ∉ before.history → .destroyed ∉ after.history

theorem send_queue (state : SysState) (stMsg : SysMsg) (allocated : Bool) :
    ∃ more, (hsCfgSysSendMsg state stMsg allocated).2.g_pstMess = state.g_pstMess ++ more := by
  unfold hsCfgSysSendMsg
  cases allocated with
  | false => exact ⟨[], (append_nil _).symm⟩
  | true =>
    by_cases room : state.g_pstMess.length < messageQueueCnt
    · simp only [if_true, if_pos room]
      exact ⟨[stMsg], rfl⟩
    · simp only [if_true, if_neg room]
      exact ⟨[], (append_nil _).symm⟩

theorem Waiting.refl (awake : board.poweredOff = false) (playing : board.player) :
    Waiting board board :=
  ⟨awake, playing, ⟨[], (append_nil _).symm⟩, id⟩

theorem Waiting.trans {first second third : Board} (left : Waiting first second)
    (right : Waiting second third) : Waiting first third := by
  obtain ⟨one, same⟩ := left.queue
  obtain ⟨two, equal⟩ := right.queue
  exact ⟨right.awake, right.playing, ⟨one ++ two, by rw [equal, same, append_assoc]⟩,
    fun unsaved => right.unsaved (left.unsaved unsaved)⟩

section

variable (awake : board.poweredOff = false) (playing : board.player = true)
include awake playing

theorem Waiting.send (stMsg : SysMsg) (allocated : Bool) :
    Waiting board (board.send stMsg allocated) :=
  ⟨awake, playing, send_queue board.sys stMsg allocated, id⟩

theorem Waiting.flush : Waiting board board.flush := by
  refine ⟨awake, playing, ⟨[], (append_nil _).symm⟩, fun unsaved member => ?_⟩
  rcases mem_append.mp member with before | now
  · exact unsaved before
  · cases mem_singleton.mp now

theorem call_waiting (other : ¬(call.handler = hsPlayerDestroy ∨ call.handler ∈ creators))
    (stays : call.handler ≠ hsPmuChipPowerOff) : Waiting board (board.call outcome call) := by
  obtain ⟨noDestroy, noCreate⟩ := not_or.mp other
  unfold Board.call
  rw [if_neg (by rw [awake]; exact nofun), if_neg noDestroy, if_neg noCreate,
    if_neg stays]
  split
  · have flushed := Waiting.flush awake playing
    have destroy := Waiting.send flushed.awake flushed.playing (playerReq eventPlayerDestroy)
      outcome.destroyAllocated
    have stop := Waiting.send destroy.awake destroy.playing (systemReq eventBtAudioStop)
      outcome.stopAllocated
    exact (flushed.trans destroy).trans stop
  · exact Waiting.refl awake playing

end

end

/-! ### One message -/

section

variable {services : Services} {outcome : Outcome} {board : Board}

theorem grows_calls (outcome : Outcome) (board : Board) (calls : List Call) :
    Grows board (calls.foldl (Board.call outcome) board) := by
  induction calls generalizing board with
  | nil => exact Grows.refl board
  | cons call _ ih => exact (grows_call outcome board call).trans (ih _)

theorem calls_off (calls : List Call) (off : board.poweredOff) :
    calls.foldl (Board.call outcome) board = board := by
  induction calls with
  | nil => rfl
  | cons call _ ih =>
    rwa [foldl_cons, show board.call outcome call = board from if_pos off]

theorem calls_first (awake : board.poweredOff = false) (playing : board.player)
    (calls : List Call) :
    let after := calls.foldl (Board.call outcome) board
    match firstOf calls with
    | some true => Saved after.history
    | some false => after.poweredOff ∧
        (.destroyed ∉ board.history → .destroyed ∉ after.history)
    | none => Waiting board after := by
  induction calls generalizing board with
  | nil => exact Waiting.refl awake playing
  | cons call rest ih =>
    rw [foldl_cons]
    unfold firstOf
    by_cases destroys : call.handler = hsPlayerDestroy ∨ call.handler ∈ creators
    · rw [if_pos destroys]
      exact (grows_calls outcome _ rest).saved (call_saved awake playing destroys)
    · rw [if_neg destroys]
      by_cases off : call.handler = hsPmuChipPowerOff
      · rw [if_pos off]
        have now : board.call outcome call = { board with poweredOff := true } := by
          obtain ⟨noDestroy, noCreate⟩ := not_or.mp destroys
          unfold Board.call
          rw [if_neg (by rw [awake]; exact nofun), if_neg noDestroy,
            if_neg noCreate, if_neg (by rw [off]; decide), if_pos off]
        rw [now]
        rw [calls_off rest rfl]
        exact ⟨rfl, id⟩
      · rw [if_neg off]
        have waiting := @call_waiting board outcome call awake playing destroys off
        have later := ih waiting.awake waiting.playing
        revert later
        cases firstOf rest with
        | none => exact waiting.trans
        | some first =>
          cases first with
          | true => exact id
          | false => exact fun both => ⟨both.1, fun unsaved => both.2 (waiting.unsaved unsaved)⟩

theorem serve_cons {stMsg : SysMsg} {rest : List SysMsg} (awake : board.poweredOff = false)
    (queue : board.sys.g_pstMess = stMsg :: rest) (outcome : Outcome) :
    board.serve services outcome =
      (cfgSysDoMessage services board.sys.g_u32FastEvent stMsg).calls.foldl
        (Board.call outcome) { board with sys := cfgSysServiceThread services board.sys } := by
  unfold Board.serve
  rw [queue]
  dsimp only
  rw [if_neg (by rw [awake]; exact nofun)]

theorem serviceThread_queue {state : SysState} {stMsg : SysMsg} {rest : List SysMsg}
    (queue : state.g_pstMess = stMsg :: rest) :
    (cfgSysServiceThread services state).g_pstMess = rest := by
  unfold cfgSysServiceThread
  rw [queue]

theorem serve_first {stMsg : SysMsg} {rest : List SysMsg} (awake : board.poweredOff = false)
    (playing : board.player) (queue : board.sys.g_pstMess = stMsg :: rest) (outcome : Outcome) :
    let after := board.serve services outcome
    match firstOf (cfgSysDoMessage services board.sys.g_u32FastEvent stMsg).calls with
    | some true => Saved after.history
    | some false => after.poweredOff ∧
        (.destroyed ∉ board.history → .destroyed ∉ after.history)
    | none => Waiting { board with sys := cfgSysServiceThread services board.sys }
        after := by
  rw [serve_cons awake queue]
  exact @calls_first outcome { board with sys := cfgSysServiceThread services board.sys } awake
    playing _

end

variable {queue : List SysMsg}

section

variable {services : Services} {board : Board}

theorem grows_step (board : Board) (action : Action) :
    Grows board (board.step services action) := by
  cases action with
  | send | setFastEvent => exact Grows.refl board
  | serve outcome =>
    change Grows board (board.serve services outcome)
    unfold Board.serve
    split
    · exact Grows.refl board
    · split
      · exact Grows.refl board
      · exact grows_calls outcome { board with sys := cfgSysServiceThread services board.sys } _

def Kept (services : Services) (board : Board) : Prop :=
  Saved board.history ∨ board.poweredOff = false ∧ board.player = true ∧
    ∃ queue more, board.sys.g_pstMess = queue ++ more ∧ Prepared services queue

section

variable (kept : Kept services board)
include kept

theorem Kept.step (action : Action) : Kept services (board.step services action) := by
  rcases kept with saved | ⟨awake, playing, queue, more, same, prepared⟩
  · exact .inl ((grows_step board action).saved saved)
  · cases action with
    | send stMsg allocated =>
      obtain ⟨added, equal⟩ := send_queue board.sys stMsg allocated
      refine .inr ⟨awake, playing, queue, more ++ added, ?_, prepared⟩
      change (hsCfgSysSendMsg board.sys stMsg allocated).2.g_pstMess = _
      rw [equal, same, append_assoc]
    | setFastEvent => exact .inr ⟨awake, playing, queue, more, same, prepared⟩
    | serve outcome =>
      cases queue with
      | nil => exact prepared.elim
      | cons stMsg rest =>
        rw [cons_append] at same
        have served := @serve_first services board stMsg _ awake playing same
          outcome
        have here := prepared board.sys.g_u32FastEvent
        revert served here
        cases firstOf (cfgSysDoMessage services board.sys.g_u32FastEvent stMsg).calls with
        | some first =>
          cases first with
          | true => exact fun saved _ => .inl saved
          | false => exact fun _ never => never.elim
        | none =>
          intro waiting later
          obtain ⟨added, equal⟩ := waiting.queue
          refine .inr ⟨waiting.awake, waiting.playing, rest, more ++ added, ?_, later⟩
          change (board.serve services outcome).sys.g_pstMess = _
          rw [equal, serviceThread_queue same, append_assoc]

theorem Kept.run (actions : List Action) : Kept services (board.run services actions) := by
  induction actions generalizing board with
  | nil => exact kept
  | cons action _ ih => exact ih (kept.step action)

theorem Kept.saves : Saves services board := by
  intro actions off
  rcases kept.run actions with saved | ⟨awake, _⟩
  · exact saved
  · rw [awake] at off
    cases off

end

def SwitchesOff (services : Services) (stMsg : SysMsg) : Prop :=
  ∀ u32FastEvent, firstOf (cfgSysDoMessage services u32FastEvent stMsg).calls = some false

def anyOutcome : Outcome := ⟨.done, true, true⟩

theorem exists_unsaved {more : List SysMsg} (awake : board.poweredOff = false)
    (playing : board.player) (unsaved : .destroyed ∉ board.history)
    (same : board.sys.g_pstMess = queue ++ more) (off : ∃ stMsg ∈ queue, SwitchesOff services stMsg)
    (unprepared : ¬Prepared services queue) :
    ∃ actions, (board.run services actions).poweredOff ∧
      .destroyed ∉ (board.run services actions).history := by
  induction queue generalizing board more with
  | nil =>
    obtain ⟨stMsg, member, _⟩ := off
    cases member
  | cons stMsg rest ih =>
    -- The count of fast events for which this message does not save.
    obtain ⟨u32FastEvent, fails⟩ := not_forall.mp unprepared
    have served := @serve_first services
      { board with sys := { board.sys with g_u32FastEvent := u32FastEvent } } stMsg
      _ awake playing same anyOutcome
    generalize next : Board.serve services anyOutcome
      { board with sys := { board.sys with g_u32FastEvent := u32FastEvent } } = after at served
    have ran (actions : List Action) :
        board.run services (.setFastEvent u32FastEvent :: .serve anyOutcome :: actions) =
          after.run services actions := by
      rw [← next]
      rfl
    cases first : firstOf (cfgSysDoMessage services u32FastEvent stMsg).calls with
    | some destroys =>
      rw [first] at served fails
      cases destroys with
      | true => exact absurd trivial fails
      | false =>
        exact ⟨[.setFastEvent u32FastEvent, .serve anyOutcome], (ran []) ▸ served.1,
          (ran []) ▸ served.2 unsaved⟩
    | none =>
      rw [first] at served fails
      obtain ⟨added, equal⟩ := served.queue
      have left : ∃ stMsg ∈ rest, SwitchesOff services stMsg := by
        obtain ⟨last, member, switches⟩ := off
        rcases mem_cons.mp member with rfl | later
        · rw [switches u32FastEvent] at first
          cases first
        · exact ⟨last, later, switches⟩
      have remaining : after.sys.g_pstMess = rest ++ (more ++ added) := by
        have served := @serviceThread_queue services
          { board.sys with g_u32FastEvent := u32FastEvent } stMsg (rest ++ more) same
        rw [equal]
        rw [served, append_assoc]
      obtain ⟨actions, isOff, still⟩ := ih served.awake served.playing
        (served.unsaved unsaved) remaining left fails
      exact ⟨_, (ran actions) ▸ isOff, (ran actions) ▸ still⟩

theorem saves_iff (awake : board.poweredOff = false)
    (playing : board.player) (unsaved : .destroyed ∉ board.history)
    (same : board.sys.g_pstMess = queue) (off : ∃ stMsg ∈ queue, SwitchesOff services stMsg) :
    Saves services board ↔ Prepared services queue := by
  constructor
  · intro saves
    by_contra unprepared
    obtain ⟨actions, isOff, still⟩ := exists_unsaved awake playing unsaved
      (same.trans (append_nil queue).symm) off unprepared
    exact still (saves actions isOff).destroyed_mem
  · intro prepared
    exact Kept.saves (.inr ⟨awake, playing, queue, [], by rw [same, append_nil], prepared⟩)

end

/-! ### The requests -/

variable {scan : Scan}

theorem scanPowerPin_requests (requests : scan.PinRequests) :
    scan.scanPowerPin = [playerReq eventPlayerDestroy, systemReq eventBtAudioStop,
      systemReq eventPrePoweroff, systemReq eventPmuPoweroff] := by
  obtain ⟨switch, status, ten⟩ := requests
  unfold Scan.scanPowerPin
  rw [switch]
  rw [if_pos status, if_pos ten]

theorem switchesOff_poweroff (others : Services) (parg : Nat) :
    SwitchesOff (sysServices others) (systemReqArg eventPmuPoweroff parg) := by
  intro u32FastEvent
  have plain : ¬(systemReqArg eventPmuPoweroff parg).Fast :=
    show ¬eventPmuPoweroff &&& fastEventMask ≠ 0 by decide
  have listed : (systemReqArg eventPmuPoweroff parg).Listed :=
    ⟨show hsCfgModuleSys < hsCfgModuleNum by decide,
      show eventPmuPoweroff &&& ~~~fastEventMask ≠ 0 by decide⟩
  rw [(cfgSysDoMessage_listed (fun fast => absurd fast plain) listed).1, code_of_not_fast plain]
  rfl

theorem prepared_append {services : Services} {front back : List SysMsg}
    (harmless : ∀ stMsg ∈ front, ∀ u32FastEvent,
      firstOf (cfgSysDoMessage services u32FastEvent stMsg).calls ≠ some false)
    (prepared : Prepared services back) : Prepared services (front ++ back) := by
  induction front with
  | nil => exact prepared
  | cons stMsg _ ih =>
    intro u32FastEvent
    have here := harmless stMsg (.head _) u32FastEvent
    have later := ih fun other member => harmless other (mem_cons_of_mem stMsg member)
    cases first : firstOf (cfgSysDoMessage services u32FastEvent stMsg).calls with
    | none => exact later
    | some destroys =>
      cases destroys with
      | true => trivial
      | false => exact absurd first here

theorem pin_prepared (others : Services) (pin : scan.PinRequests)
    (harmless : ∀ stMsg ∈ queue ++ scan.adc, ∀ u32FastEvent,
      firstOf (cfgSysDoMessage (sysServices others) u32FastEvent stMsg).calls ≠ some false) :
    Prepared (sysServices others) (queue ++ scan.posts) := by
  unfold Scan.posts
  rw [scanPowerPin_requests pin]
  simp only [append_assoc]
  rw [← append_assoc]
  refine prepared_append harmless fun u32FastEvent => ?_
  trivial

theorem exists_switchesOff (others : Services) (requests : scan.PinRequests ∨ scan.AutoRequests) :
    ∃ stMsg ∈ scan.posts, SwitchesOff (sysServices others) stMsg := by
  unfold Scan.posts
  rcases requests with pin | auto
  · refine ⟨systemReq eventPmuPoweroff, ?_, switchesOff_poweroff others 0⟩
    rw [scanPowerPin_requests pin]
    simp only [mem_append, mem_cons, true_or, or_true]
  · refine ⟨systemReqArg eventPmuPoweroff scan.u8PdType, ?_, switchesOff_poweroff others _⟩
    rw [if_pos auto]
    simp only [mem_append, mem_cons, true_or, or_true]

theorem sends_queue (board : Board) (posts : List SysMsg)
    (room : board.sys.g_pstMess.length + posts.length ≤ messageQueueCnt) :
    let sent := posts.foldl (fun board stMsg => board.send stMsg true) board
    sent.sys.g_pstMess = board.sys.g_pstMess ++ posts ∧ sent.player = board.player ∧
      sent.history = board.history ∧ sent.poweredOff = board.poweredOff := by
  induction posts generalizing board with
  | nil => exact ⟨(append_nil _).symm, rfl, rfl, rfl⟩
  | cons stMsg _ ih =>
    rw [length_cons] at room
    have queue : (board.send stMsg true).sys.g_pstMess = board.sys.g_pstMess ++ [stMsg] := by
      unfold Board.send hsCfgSysSendMsg
      rw [if_pos rfl]
      rw [if_pos (by omega)]
    obtain ⟨all, same⟩ := ih (board.send stMsg true) (by
      rw [queue, length_append, length_singleton]
      omega)
    refine ⟨?_, same⟩
    rw [foldl_cons, all, queue, append_assoc]
    rfl

/-- A scan that requests the power off saves the player exactly if, of what is queued
and posted, a message that destroys the player comes before any that switches off. -/
theorem power_off_saves (others : Services) (scan : Scan) (board : Board)
    (requests : scan.PinRequests ∨ scan.AutoRequests) (awake : board.poweredOff = false)
    (playing : board.player = true)
    (room : board.sys.g_pstMess.length + scan.posts.length ≤ messageQueueCnt) :
    Saves (sysServices others) (board.scanned scan) ↔
      Prepared (sysServices others) (board.sys.g_pstMess ++ scan.posts) := by
  obtain ⟨queue, player, history, power⟩ := sends_queue { board with history := [] } scan.posts room
  obtain ⟨stMsg, member, switches⟩ := exists_switchesOff others requests
  refine saves_iff (power.trans awake) (player.trans playing) ?_ queue
    ⟨stMsg, mem_append_right _ member, switches⟩
  unfold Board.scanned
  rw [history]
  exact not_mem_nil

def switchScan : Scan :=
  { u8PowerOnMode := .switch
    u8Status := true
    u8Cnt := 9
    u8ScanEnable := false
    u32Cnt := 0
    u32NextPoint := 0
    u8PdType := 0
    adc := []
    devices := [] }

def quietServices : Services := ⟨fun _ => [], fun _ => [], []⟩

def playingBoard : Board := ⟨.start, true, [], false⟩

theorem power_off_saves_switch :
    Saves (sysServices quietServices) (playingBoard.scanned switchScan) :=
  (power_off_saves quietServices switchScan playingBoard (.inl ⟨rfl, rfl, rfl⟩) rfl rfl
    (by decide)).mpr (pin_prepared quietServices ⟨rfl, rfl, rfl⟩ nofun)

def autoScan : Scan := { switchScan with u8Cnt := 0, u32Cnt := 599, u32NextPoint := 600 }

theorem power_off_saves_automatic :
    ¬Saves (sysServices quietServices) (playingBoard.scanned autoScan) := by
  intro saves
  have saved := saves [.serve anyOutcome, .serve anyOutcome, .serve anyOutcome, .serve anyOutcome]
    (by decide)
  exact absurd saved.destroyed_mem (by decide)

end Hfirmware.System.PowerOff
