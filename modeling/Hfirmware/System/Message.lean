/-
The system message service. Messages wait in a queue of 30; a counter of fast events,
kept beside it, decides whether their mark is taken off before a message is dispatched.
-/

import Hfirmware.Config.Index
import Hfirmware.GuardedRun

namespace Hfirmware.System

open List Config GuardedRun

def fastEventMask : BitVec 16 := 0x8000#16

def messageQueueCnt : Nat := 30

def hsCfgModuleNum : Nat := 17

inductive MessType where
  | sysEvent | sysStatus
deriving DecidableEq

structure SysMsg where
  eMod : Nat
  eType : MessType
  u16Msg : BitVec 16
  parg : Nat

structure MessOper where
  u16MessType : BitVec 16
  pfnOper : Option Nat
deriving DecidableEq

structure Services where
  g_pstSysEventOper : Nat → List MessOper
  g_pstSysStatusOper : Nat → List MessOper
  g_pstEventOper : List MessOper

structure Call where
  handler : Nat
  u16Msg : BitVec 16
  parg : Nat

def findOper (u16Msg : BitVec 16) : List MessOper → Option MessOper
  | [] => none
  | oper :: rest =>
    if oper.u16MessType = 0 then none
    else if oper.u16MessType = u16Msg then some oper
    else findOper u16Msg rest

/-- `_cfg_sysDoEvent` for a list of listeners that does not change meanwhile. -/
def cfgSysDoEvent (listeners : List MessOper) (u16Msg : BitVec 16) (parg : Nat) : List Call :=
  listeners.filterMap fun oper =>
    if oper.u16MessType = u16Msg then
      oper.pfnOper.map fun handler => { handler := handler, u16Msg := u16Msg, parg := parg }
    else none

def handlerCalls (services : Services) (eMod : Nat) (eType : MessType) (u16Msg : BitVec 16)
    (parg : Nat) : List Call :=
  let table :=
    match eType with
    | .sysEvent => services.g_pstSysEventOper eMod
    | .sysStatus => services.g_pstSysStatusOper eMod
  let handler := (findOper u16Msg table).bind MessOper.pfnOper
  (handler.map fun handler =>
      { handler := handler, u16Msg := u16Msg, parg := parg : Call }).toList ++
    match eType with
    | .sysEvent => cfgSysDoEvent services.g_pstEventOper u16Msg parg
    | .sysStatus => []

structure Served where
  enRes : CfgRes
  u32FastEvent : Nat
  calls : List Call
  (led tone : Bool)

def cfgSysDoMessage (services : Services) (u32FastEvent : Nat) (stMsg : SysMsg) : Served :=
  let fast := stMsg.u16Msg &&& fastEventMask ≠ 0 ∧ u32FastEvent > 0
  let u16Msg := if fast then stMsg.u16Msg &&& ~~~fastEventMask else stMsg.u16Msg
  let left := if fast then u32FastEvent - 1 else u32FastEvent
  if u16Msg = 0 ∨ stMsg.eMod ≥ hsCfgModuleNum then
    { enRes := .errNoData
      u32FastEvent := left
      calls := []
      led := false
      tone := false }
  else
    { enRes := .ok
      u32FastEvent := left
      calls := handlerCalls services stMsg.eMod stMsg.eType u16Msg stMsg.parg
      led := left = 0
      tone := left = 0 }

structure Dispatch where
  stMsg : SysMsg
  calls : List Call

structure SysState where
  g_pstMess : List SysMsg
  g_u32FastEvent : Nat
  accepted : List SysMsg
  dispatched : List Dispatch

variable {services : Services} {state : SysState}

def SysState.start : SysState :=
  { g_pstMess := []
    g_u32FastEvent := 0
    accepted := []
    dispatched := [] }

def hsCfgSysSendMsg (state : SysState) (stMsg : SysMsg) (allocated : Bool) : CfgRes × SysState :=
  if allocated then
    -- The counter goes up before the put that may fail.
    let counted := { state with
      g_u32FastEvent :=
        if stMsg.u16Msg &&& fastEventMask ≠ 0 then u32 (state.g_u32FastEvent + 1)
        else state.g_u32FastEvent }
    if state.g_pstMess.length < messageQueueCnt then
      (.ok, { counted with
        g_pstMess := state.g_pstMess ++ [stMsg]
        accepted := state.accepted ++ [stMsg] })
    else (.error, counted)
  else (.error, state)

def cfgSysServiceThread (services : Services) (state : SysState) : SysState :=
  match state.g_pstMess with
  | [] => state
  | stMsg :: rest =>
    let served := cfgSysDoMessage services state.g_u32FastEvent stMsg
    { state with
      g_pstMess := rest
      g_u32FastEvent := served.u32FastEvent
      dispatched := state.dispatched ++ [{ stMsg := stMsg, calls := served.calls }] }

inductive SysAction where
  | sendMsg (stMsg : SysMsg) (allocated : Bool)
  | service | clearMsg
  | setFastEvent (u32Cnt : Nat)

def SysState.step (services : Services) (state : SysState) : SysAction → SysState
  | .sendMsg stMsg allocated => (hsCfgSysSendMsg state stMsg allocated).2
  | .service => cfgSysServiceThread services state
  | .clearMsg => { state with g_pstMess := [] }
  | .setFastEvent u32Cnt => { state with g_u32FastEvent := u32Cnt }

def SysState.run (services : Services) (state : SysState) (actions : List SysAction) : SysState :=
  actions.foldl (SysState.step services) state

def SysMsg.Fast (stMsg : SysMsg) : Prop := stMsg.u16Msg &&& fastEventMask ≠ 0

instance (stMsg : SysMsg) : Decidable stMsg.Fast := inferInstanceAs (Decidable (_ ≠ _))

def SysMsg.code (stMsg : SysMsg) : BitVec 16 := stMsg.u16Msg &&& ~~~fastEventMask

def SysMsg.Listed (stMsg : SysMsg) : Prop := stMsg.eMod < hsCfgModuleNum ∧ stMsg.code ≠ 0

def fastCount (queue : List SysMsg) : Nat := queue.countP fun stMsg => stMsg.Fast

theorem code_of_not_fast {stMsg : SysMsg} (plain : ¬stMsg.Fast) : stMsg.code = stMsg.u16Msg := by
  have clear : stMsg.u16Msg &&& fastEventMask = 0#16 := not_not.mp plain
  calc stMsg.u16Msg &&& ~~~fastEventMask
      = (stMsg.u16Msg &&& fastEventMask) ||| (stMsg.u16Msg &&& ~~~fastEventMask) := by
        rw [clear, BitVec.zero_or]
    _ = stMsg.u16Msg := by
        rw [← BitVec.and_or_distrib_left]
        exact BitVec.and_allOnes

theorem fastCount_cons (stMsg : SysMsg) (queue : List SysMsg) :
    fastCount (stMsg :: queue) = fastCount queue + if stMsg.Fast then 1 else 0 := by
  simp only [fastCount, countP_cons, decide_eq_true_eq]

theorem fastCount_append_singleton (queue : List SysMsg) (stMsg : SysMsg) :
    fastCount (queue ++ [stMsg]) = fastCount queue + if stMsg.Fast then 1 else 0 := by
  simp only [fastCount, countP_append, countP_singleton, decide_eq_true_eq]

section

variable {u32FastEvent : Nat} {stMsg : SysMsg}

theorem cfgSysDoMessage_u32FastEvent : (cfgSysDoMessage services u32FastEvent stMsg).u32FastEvent =
    u32FastEvent - if stMsg.Fast then 1 else 0 := by
  unfold cfgSysDoMessage
  by_cases fast : stMsg.Fast
  · by_cases positive : u32FastEvent > 0
    · have both : stMsg.u16Msg &&& fastEventMask ≠ 0 ∧ u32FastEvent > 0 := ⟨fast, positive⟩
      simp only [if_pos both, if_pos fast]
      split <;> rfl
    · have neither : ¬(stMsg.u16Msg &&& fastEventMask ≠ 0 ∧ u32FastEvent > 0) :=
        fun both => positive both.2
      simp only [if_neg neither, if_pos fast]
      split <;> simp only <;> omega
  · have neither : ¬(stMsg.u16Msg &&& fastEventMask ≠ 0 ∧ u32FastEvent > 0) :=
      fun both => fast both.1
    simp only [if_neg neither, if_neg fast]
    split <;> rfl

theorem cfgSysDoMessage_listed (counted : stMsg.Fast → 0 < u32FastEvent) (listed : stMsg.Listed) :
    let after := cfgSysDoMessage services u32FastEvent stMsg
    after.calls = handlerCalls services stMsg.eMod stMsg.eType stMsg.code stMsg.parg ∧ after.led =
        decide (u32FastEvent - (if stMsg.Fast then 1 else 0) = 0) ∧
      after.tone =
        decide (u32FastEvent - (if stMsg.Fast then 1 else 0) = 0) := by
  have taken : ¬(stMsg.code = 0 ∨ stMsg.eMod ≥ hsCfgModuleNum) := by
    rintro (none | outside)
    · exact listed.2 none
    · exact absurd listed.1 (not_lt.mpr outside)
  unfold cfgSysDoMessage
  by_cases fast : stMsg.Fast
  · have both : stMsg.u16Msg &&& fastEventMask ≠ 0 ∧ u32FastEvent > 0 := ⟨fast, counted fast⟩
    simp only [if_pos both, if_pos fast]
    change ¬(stMsg.u16Msg &&& ~~~fastEventMask = 0 ∨ _) at taken
    rw [if_neg taken]
    exact ⟨rfl, rfl, rfl⟩
  · have neither : ¬(stMsg.u16Msg &&& fastEventMask ≠ 0 ∧ u32FastEvent > 0) :=
      fun both => fast both.1
    rw [code_of_not_fast fast] at taken ⊢
    simp only [if_neg neither, if_neg fast]
    rw [if_neg taken]
    exact ⟨rfl, rfl, rfl⟩

end

/-! ### Delivery -/

variable {action : SysAction} {allocated : Bool}

section

/-- Each accepted message is dispatched or waits, in the order of acceptance,
and the counter covers the fast ones that wait. -/
structure Delivering (services : Services) (state : SysState) : Prop where
  covered : fastCount state.g_pstMess ≤ state.g_u32FastEvent
  fifo : state.dispatched.map Dispatch.stMsg ++ state.g_pstMess = state.accepted
  called : ∀ dispatch ∈ state.dispatched, dispatch.stMsg.Listed →
    dispatch.calls = handlerCalls services dispatch.stMsg.eMod dispatch.stMsg.eType
      dispatch.stMsg.code dispatch.stMsg.parg

/-- The button code zeroes the counter only while no fast message waits, and a
fast message is sent only while the counter has room. -/
def DeliveryAllowed (state : SysState) : SysAction → Prop
  | .sendMsg stMsg _ => stMsg.Fast → state.g_u32FastEvent + 1 < 2 ^ 32
  | .service => True
  | .clearMsg => False
  | .setFastEvent u32Cnt => u32Cnt = 0 ∧ fastCount state.g_pstMess = 0

section

variable (held : Delivering services state)
include held

theorem Delivering.send {stMsg : SysMsg} (room : stMsg.Fast → state.g_u32FastEvent + 1 < 2 ^ 32) :
    Delivering services (hsCfgSysSendMsg state stMsg allocated).2 := by
  have covered := held.covered
  have counted : fastCount state.g_pstMess + (if stMsg.Fast then 1 else 0) ≤
      if stMsg.Fast then u32 (state.g_u32FastEvent + 1) else state.g_u32FastEvent := by
    by_cases fast : stMsg.Fast
    · rw [if_pos fast, if_pos fast, u32_of_lt (room fast)]
      omega
    · rwa [if_neg fast, if_neg fast]
  unfold hsCfgSysSendMsg
  cases allocated with
  | false => exact held
  | true =>
    simp only [if_true]
    split
    · refine ⟨?_, ?_, held.called⟩
      · change fastCount (state.g_pstMess ++ [stMsg]) ≤ _
        rwa [fastCount_append_singleton]
      · change _ ++ (state.g_pstMess ++ [stMsg]) = state.accepted ++ [stMsg]
        rw [← append_assoc, held.fifo]
    · exact ⟨le_trans (Nat.le_add_right _ _) counted, held.fifo, held.called⟩

theorem Delivering.service : Delivering services (cfgSysServiceThread services state) := by
  unfold cfgSysServiceThread
  cases waiting : state.g_pstMess with
  | nil => exact held
  | cons stMsg rest =>
    have covered := held.covered
    rw [waiting, fastCount_cons] at covered
    refine ⟨?_, ?_, ?_⟩
    · change fastCount rest ≤ (cfgSysDoMessage services state.g_u32FastEvent stMsg).u32FastEvent
      rw [cfgSysDoMessage_u32FastEvent]
      omega
    · change List.map Dispatch.stMsg (state.dispatched ++ [_]) ++ rest = state.accepted
      rw [← held.fifo, waiting, map_append, append_assoc]
      rfl
    · intro dispatch member listed
      rcases mem_append.mp member with earlier | last
      · exact held.called dispatch earlier listed
      · obtain rfl := mem_singleton.mp last
        refine (cfgSysDoMessage_listed ?_ listed).1
        intro fast
        rw [if_pos fast] at covered
        omega

theorem Delivering.step (allowed : DeliveryAllowed state action) :
    Delivering services (state.step services action) := by
  cases action with
  | sendMsg => exact held.send allowed
  | service => exact held.service
  | clearMsg => exact allowed.elim
  | setFastEvent =>
    obtain ⟨rfl, none⟩ := allowed
    exact ⟨le_of_eq none, held.fifo, held.called⟩

end

theorem Delivering.start : Delivering services .start :=
  ⟨le_refl 0, rfl, by rintro dispatch ⟨⟩⟩

theorem run_service (count : Nat) :
    let after := state.run services (replicate count .service)
    after.g_pstMess = state.g_pstMess.drop count ∧ after.accepted = state.accepted := by
  induction count generalizing state with
  | zero => exact ⟨rfl, rfl⟩
  | succ _ ih =>
    change (SysState.run services (cfgSysServiceThread services state) _).g_pstMess = _ ∧
      (SysState.run services (cfgSysServiceThread services state) _).accepted = _
    rw [ih.1, ih.2]
    unfold cfgSysServiceThread
    cases waiting : state.g_pstMess with
    | nil => exact ⟨by rw [waiting]; simp only [drop_nil], rfl⟩
    | cons => exact ⟨rfl, rfl⟩

/-- Every accepted message is dispatched exactly once, first in first out, to the
handlers of its code, and all of them once the service thread has taken enough turns. -/
structure DeliveredInOrder (services : Services) (state : SysState) : Prop where
  fifo : state.dispatched.map Dispatch.stMsg ++ state.g_pstMess = state.accepted
  called : ∀ dispatch ∈ state.dispatched, dispatch.stMsg.Listed →
    dispatch.calls = handlerCalls services dispatch.stMsg.eMod dispatch.stMsg.eType
      dispatch.stMsg.code dispatch.stMsg.parg
  drained : (state.run services (List.replicate state.g_pstMess.length .service)).dispatched.map
    Dispatch.stMsg = state.accepted

theorem Delivering.run_service (held : Delivering services state) (count : Nat) :
    Delivering services (state.run services (replicate count .service)) := by
  induction count generalizing state with
  | zero => exact held
  | succ _ ih => exact ih held.service

theorem Delivering.deliveredInOrder (held : Delivering services state) :
    DeliveredInOrder services state := by
  refine ⟨held.fifo, held.called, ?_⟩
  obtain ⟨queue, accepted⟩ := @System.run_service services state _
  have later := (held.run_service state.g_pstMess.length).fifo
  rwa [queue, accepted, drop_length, append_nil] at later

end

theorem deliveredInOrder_of_allowed (services : Services) (actions : List SysAction)
    (allowed : Along (SysState.step services) DeliveryAllowed .start actions) :
    DeliveredInOrder services (SysState.start.run services actions) := by
  have held : Delivering services (SysState.start.run services actions) :=
    invariant_of_along (fun _ _ held allowed => held.step allowed) .start allowed
  exact held.deliveredInOrder

def oneService : Services :=
  { g_pstSysEventOper := fun eMod =>
      if eMod = 1 then [{ u16MessType := 5, pfnOper := some 100 }] else []
    g_pstSysStatusOper := fun _ => []
    g_pstEventOper := [{ u16MessType := 5, pfnOper := some 200 }] }

def fastMessage : SysMsg :=
  { eMod := 1
    eType := .sysEvent
    u16Msg := 0x8005
    parg := 0 }

def plainMessage : SysMsg := { fastMessage with u16Msg := 5 }

theorem deliveredInOrder_of_allowed_board :
    DeliveredInOrder oneService (SysState.start.run oneService
      [.sendMsg fastMessage true, .sendMsg plainMessage true, .service, .setFastEvent 0,
        .service]) :=
  deliveredInOrder_of_allowed oneService _ (by
    refine ⟨fun _ => by decide, fun _ => by decide, trivial, ⟨rfl, by decide⟩, trivial, trivial⟩)

/-- The button is released while its fast event still waits: the event is then
dispatched with the mask, and neither handler nor listener is called. -/
theorem not_deliveredInOrder_release : ¬DeliveredInOrder oneService (SysState.start.run oneService
    [.sendMsg fastMessage true, .setFastEvent 0, .service]) := by
  intro delivered
  have called := delivered.called { stMsg := fastMessage, calls := [] } (.head _)
    ⟨by decide, by decide⟩
  exact absurd called (by decide)

/-! ### Accounting -/

section

/-- The counter is the number of fast messages that wait; it is 0 over an empty
queue, and LED and tone follow the last message of the queue. -/
structure Accounted (services : Services) (state : SysState) : Prop where
  counted : state.g_u32FastEvent = fastCount state.g_pstMess
  drained : state.g_pstMess = [] → state.g_u32FastEvent = 0
  notified : ∀ stMsg, state.g_pstMess = [stMsg] → stMsg.Listed →
    (cfgSysDoMessage services state.g_u32FastEvent stMsg).led = true ∧
      (cfgSysDoMessage services state.g_u32FastEvent stMsg).tone = true

/-- Fast messages are sent only into a queue with room, and the queue is cleared
only while no fast message waits. -/
def AccountingAllowed (state : SysState) : SysAction → Prop
  | .sendMsg stMsg allocated =>
    stMsg.Fast → allocated = true → state.g_pstMess.length < messageQueueCnt
  | .service => True
  | .clearMsg => fastCount state.g_pstMess = 0
  | .setFastEvent _ => False

section

variable (counted : state.g_u32FastEvent = fastCount state.g_pstMess)
include counted

theorem accounted_of_counted : Accounted services state := by
  refine ⟨counted, fun empty => ?_, fun stMsg last listed => ?_⟩
  · rw [counted, empty]
    rfl
  · have one : state.g_u32FastEvent = if stMsg.Fast then 1 else 0 := by
      rw [counted, last, fastCount_cons]
      exact zero_add _
    have covers : stMsg.Fast → 0 < state.g_u32FastEvent := by
      intro fast
      rw [one, if_pos fast]
      exact one_pos
    obtain ⟨-, led, tone⟩ := @cfgSysDoMessage_listed services _ _ covers listed
    rw [led, tone, one, Nat.sub_self]
    exact ⟨rfl, rfl⟩

theorem counted_send {stMsg : SysMsg}
    (room : stMsg.Fast → allocated → state.g_pstMess.length < messageQueueCnt) :
    (hsCfgSysSendMsg state stMsg allocated).2.g_u32FastEvent =
      fastCount (hsCfgSysSendMsg state stMsg allocated).2.g_pstMess := by
  unfold hsCfgSysSendMsg
  cases allocated with
  | false => exact counted
  | true =>
    simp only [if_true]
    by_cases fast : stMsg.Fast
    · have fits := room fast rfl
      have few : fastCount state.g_pstMess ≤ state.g_pstMess.length := countP_le_length
      unfold messageQueueCnt at fits
      rw [if_pos (by exact fits)]
      change (if stMsg.Fast then _ else _) = fastCount (state.g_pstMess ++ [stMsg])
      rw [if_pos fast, fastCount_append_singleton, if_pos fast, ← counted, u32_of_lt (by omega)]
    · split
      · change (if stMsg.Fast then _ else _) = fastCount (state.g_pstMess ++ [stMsg])
        rw [if_neg fast, fastCount_append_singleton, if_neg fast, ← counted]
        rfl
      · change (if stMsg.Fast then _ else _) = fastCount state.g_pstMess
        rw [if_neg fast, counted]

theorem counted_service : (cfgSysServiceThread services state).g_u32FastEvent =
    fastCount (cfgSysServiceThread services state).g_pstMess := by
  unfold cfgSysServiceThread
  cases waiting : state.g_pstMess with
  | nil => exact counted
  | cons stMsg rest =>
    change (cfgSysDoMessage services state.g_u32FastEvent stMsg).u32FastEvent = fastCount rest
    rw [waiting, fastCount_cons] at counted
    rw [cfgSysDoMessage_u32FastEvent, counted, Nat.add_sub_cancel]

theorem counted_step (allowed : AccountingAllowed state action) :
    (state.step services action).g_u32FastEvent =
      fastCount (state.step services action).g_pstMess := by
  cases action with
  | sendMsg => exact counted_send counted allowed
  | service => exact counted_service counted
  | clearMsg => exact counted.trans allowed
  | setFastEvent => exact allowed.elim

end

end

theorem accounted_of_allowed (services : Services) (actions : List SysAction)
    (allowed : Along (SysState.step services) AccountingAllowed .start actions) :
    Accounted services (SysState.start.run services actions) := by
  refine accounted_of_counted ?_
  exact @invariant_of_along _ _ _ _ _
    (fun state => state.g_u32FastEvent = fastCount state.g_pstMess)
    (fun _ _ counted allowed => counted_step counted allowed) _ rfl allowed

theorem accounted_of_allowed_board : Accounted oneService (SysState.start.run oneService
    [.sendMsg fastMessage true, .sendMsg fastMessage false, .service, .sendMsg plainMessage true,
      .clearMsg, .sendMsg fastMessage true]) :=
  accounted_of_allowed oneService _
    ⟨fun _ _ => by decide, fun _ => nofun, trivial, fun _ _ => by decide,
      by change fastCount _ = 0; decide, fun _ _ => by decide, trivial⟩

/-- A fast message is refused by a full queue and stays in the counter. -/
theorem not_accounted_full : ¬Accounted oneService (SysState.start.run oneService
    (List.replicate 30 (.sendMsg plainMessage true) ++ [.sendMsg fastMessage true])) := by
  intro accounted
  exact absurd accounted.counted (by decide +kernel)

end Hfirmware.System
