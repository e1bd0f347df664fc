/-
The state machine of the application: its end, and the thread that records for a call.
-/

import Hfirmware.Bluetooth.A2dpLinks

namespace Hfirmware.Bluetooth.A2dp

open List Nat

/-! ### Teardown -/

/-- The lists by the addresses of their nodes, an ACL entry with its timer `ft`; then
the timers that were deleted and what was freed. -/
structure AppLists where
  bonded_device_list : List Nat
  connection_list : List (Nat × AppConnInst)
  acl_list : List (Nat × Option Nat)
  (deleted freed : List Nat)

namespace AppLists

def nodes (lists : AppLists) : List Nat :=
  lists.bonded_device_list ++ lists.connection_list.map Prod.fst ++ lists.acl_list.map Prod.fst

/-- The loop over the connections: the handles of the remote controls. -/
def avrcpHandles (lists : AppLists) : List Nat :=
  lists.connection_list.flatMap fun (_, inst) =>
    if inst.service_class = .avrcpCt then inst.profile_inst_handle.toList else []

/-- The loop over the ACL entries, which does not go on to the next node. -/
def aclLoop : Nat → List (Nat × Option Nat) → List Nat → Option (List Nat)
  | 0, _, _ => none
  | _ + 1, [], deleted => some deleted
  | fuel + 1, (node, ft) :: rest, deleted =>
    aclLoop fuel ((node, none) :: rest) (deleted ++ ft.toList)

section

-- `List_RemoveAll`, of which there is only the prototype: what it leaves in the list, and what
-- it frees.
variable (listRemoveAll : ∀ {Node : Type}, List Node → List Node × List Node)

def appFsmDone (fuel : Nat) (lists : AppLists) : Option AppLists :=
  (aclLoop fuel lists.acl_list lists.deleted).map fun deleted =>
    { bonded_device_list := (listRemoveAll lists.bonded_device_list).1
      connection_list := (listRemoveAll lists.connection_list).1
      acl_list := (listRemoveAll lists.acl_list).1
      deleted
      freed := lists.freed ++ lists.avrcpHandles ++ (listRemoveAll lists.bonded_device_list).2 ++
        (listRemoveAll lists.connection_list).2.map Prod.fst ++
        (listRemoveAll lists.acl_list).2.map Prod.fst }

/-- The library empties the list and frees every node once. -/
def FreesAll : Prop := ∀ {Node : Type} (nodes : List Node), listRemoveAll nodes = ([], nodes)

end

theorem aclLoop_hangs (fuel : Nat) (entry : Nat × Option Nat) (rest : List (Nat × Option Nat))
    (deleted : List Nat) : aclLoop fuel (entry :: rest) deleted = none := by
  induction fuel generalizing entry deleted with
  | zero => rfl
  | succ fuel ih => exact ih _ _

theorem teardown (listRemoveAll : ∀ {Node : Type}, List Node → List Node × List Node)
    (frees : FreesAll listRemoveAll) (lists : AppLists) :
    (∃ after, (∀ fuel, appFsmDone listRemoveAll (fuel + 1) lists = some after) ∧
      after.nodes = [] ∧ after.deleted = lists.deleted ++ lists.acl_list.filterMap Prod.snd ∧
      after.freed = lists.freed ++ lists.avrcpHandles ++ lists.nodes) ↔ lists.acl_list = [] := by
  constructor
  · rintro ⟨after, returns, -⟩
    cases acl : lists.acl_list with
    | nil => rfl
    | cons entry rest =>
      have hangs := returns 0
      rw [appFsmDone, acl, aclLoop_hangs] at hangs
      cases hangs
  · intro unlinked
    refine ⟨⟨[], [], [], lists.deleted, lists.freed ++ lists.avrcpHandles ++ lists.nodes⟩,
      fun fuel => ?_, rfl, ?_, rfl⟩
    · rw [appFsmDone, unlinked, aclLoop]
      simp [frees _, nodes, unlinked]
    · rw [unlinked, filterMap_nil, append_nil]

theorem teardown_bonded :
    ∃ after, (∀ fuel, appFsmDone (fun nodes => ([], nodes)) (fuel + 1) ⟨[64, 96], [], [], [], []⟩ =
      some after) ∧ after.freed = [64, 96] := by
  obtain ⟨after, returns, -, -, freed⟩ :=
    (teardown (fun nodes => ([], nodes)) (fun _ => rfl) ⟨[64, 96], [], [], [], []⟩).mpr rfl
  exact ⟨after, returns, freed⟩

theorem teardown_linked : ¬∃ fuel after, appFsmDone (fun nodes => ([], nodes)) fuel
    ⟨[64], [], [(96, some 7), (128, some 8)], [], []⟩ = some after := by
  rintro ⟨fuel, after, returns⟩
  rw [appFsmDone, aclLoop_hangs] at returns
  cases returns

end AppLists

/-! ### The audio thread -/

/-- The thread with its pending events; `recording` while it is in
`hsc_HfpRecordDataHandle`, which it has called `calls` times. -/
structure AudioThread where
  events : BitVec 8
  (app_thread_wakeup recording : Bool)
  calls : Nat
deriving DecidableEq

inductive ThreadAction where
  | sleep | wakeup
  /-- The thread waits for events, or takes them. -/
  | turn
  /-- The recording is stopped. -/
  | leave
deriving DecidableEq

namespace AudioThread

def start : AudioThread := ⟨0, false, false, 0⟩

def recordDataHandle (thread : AudioThread) : AudioThread :=
  { thread with recording := true, calls := thread.calls + 1 }

def threadMsgHandler (thread : AudioThread) (mask : BitVec 8) : AudioThread :=
  if mask = 1 then { thread with app_thread_wakeup := false }
  else if mask = 2 then { thread with app_thread_wakeup := true }.recordDataHandle
  else if mask = 4 then if thread.app_thread_wakeup then thread.recordDataHandle else thread
  else thread

def step (thread : AudioThread) : ThreadAction → AudioThread
  | .sleep => { thread with events := thread.events ||| 1 }
  | .wakeup =>
    if thread.app_thread_wakeup then thread else { thread with events := thread.events ||| 2 }
  | .turn =>
    if thread.recording ∨ thread.events = 0 then thread
    else { thread with events := 0 }.threadMsgHandler thread.events
  | .leave => { thread with recording := false }

def run (thread : AudioThread) (actions : List ThreadAction) : AudioThread :=
  actions.foldl step thread

/-- No other event is pending than that of the request, and the flag does not suppress it. -/
abbrev Alone (thread : AudioThread) (request : ThreadAction) : Prop :=
  (thread.events = 0 ∨ thread.events = if request = .wakeup then 2 else 1) ∧
    (request = .wakeup → thread.app_thread_wakeup = false)

/-- What a request comes to, from `calls` calls on. -/
abbrev Heeded (calls : Nat) (request : ThreadAction) (thread : AudioThread) : Prop :=
  thread.events = 0 ∧ thread.app_thread_wakeup = decide (request = .wakeup) ∧
    if request = .wakeup then calls < thread.calls else thread.recording = false

inductive Requested (calls : Nat) : ThreadAction → AudioThread → Prop where
  | sleep (thread : AudioThread) (pending : thread.events = 1) : Requested calls .sleep thread
  | wakeup : Requested calls .wakeup ⟨2, false, false, calls⟩
  | heeded {request thread} (heeded : Heeded calls request thread) : Requested calls request thread

variable {thread : AudioThread} {calls : Nat} {request : ThreadAction}

def Awake (thread : AudioThread) : Prop :=
  thread.recording = true → thread.app_thread_wakeup = true

theorem Awake.step (awake : thread.Awake) (action : ThreadAction) : (thread.step action).Awake := by
  cases action with
  | sleep => exact awake
  | wakeup =>
    simp only [AudioThread.step]
    split <;> exact awake
  | turn =>
    simp only [AudioThread.step, threadMsgHandler, recordDataHandle]
    split_ifs <;> simp_all [Awake]
  | leave => exact nofun

theorem Awake.run (actions : List ThreadAction) : (start.run actions).Awake :=
  actions.foldlRecOn (motive := Awake) AudioThread.step nofun
    fun _ awake action _ => awake.step action

theorem Requested.made (asks : request = .sleep ∨ request = .wakeup) (awake : thread.Awake)
    (alone : thread.Alone request) : Requested thread.calls request (thread.step request) := by
  obtain ⟨events, app_thread_wakeup, recording, calls⟩ := thread
  obtain ⟨pending, asleep⟩ := alone
  rcases asks with rfl | rfl
  · refine .sleep _ ?_
    rcases pending with rfl | rfl <;> simp [step]
  · obtain rfl := asleep rfl
    obtain rfl : recording = false := Bool.eq_false_iff.mpr fun busy => nomatch awake busy
    rcases pending with rfl | rfl <;> simpa [step] using Requested.wakeup

theorem Requested.turn (requested : Requested calls request thread) :
    Requested calls request (thread.step .turn) := by
  cases requested with
  | sleep _ pending =>
    simp only [step]
    split
    · exact .sleep _ pending
    · next free =>
      rw [pending]
      exact .heeded ⟨rfl, rfl, Bool.eq_false_iff.mpr fun busy => free (.inl busy)⟩
  | wakeup => exact .heeded ⟨rfl, rfl, lt_succ_self calls⟩
  | heeded heeded =>
    rw [step, if_pos (.inr heeded.1)]
    exact .heeded heeded

theorem Heeded.leave (heeded : Heeded calls request thread) :
    Heeded calls request (thread.step .leave) := by
  refine ⟨heeded.1, heeded.2.1, ?_⟩
  split
  · next wakes => exact (if_pos wakes).mp heeded.2.2
  · rfl

theorem Requested.leave (requested : Requested calls request thread) :
    Requested calls request (thread.step .leave) := by
  cases requested with
  | sleep _ pending => exact .sleep _ pending
  | wakeup => exact .wakeup
  | heeded heeded => exact .heeded heeded.leave

/-- Once the recording has stopped, the thread takes the request at its next turn. -/
theorem Requested.heed (requested : Requested calls request thread) :
    Heeded calls request ((thread.step .leave).step .turn) := by
  cases requested with
  | sleep _ pending => simp [step, threadMsgHandler, Heeded, pending]
  | wakeup => exact ⟨rfl, rfl, lt_succ_self calls⟩
  | heeded heeded =>
    rw [step, if_pos (.inr heeded.leave.1)]
    exact heeded.leave

theorem last_request (before later : List ThreadAction) {request : ThreadAction}
    (asks : request = .sleep ∨ request = .wakeup) (alone : Alone (start.run before) request)
    (quiet : ∀ action ∈ later, action = .turn ∨ action = .leave) :
    Heeded (start.run before).calls request
      (start.run (before ++ request :: later ++ [.leave, .turn])) := by
  have requested : Requested (start.run before).calls request
      (later.foldl step ((start.run before).step request)) := by
    refine later.foldlRecOn step (.made asks (.run before) alone)
      fun thread requested action member => ?_
    rcases quiet action member with rfl | rfl
    · exact requested.turn
    · exact requested.leave
  unfold run
  rw [foldl_append, foldl_append]
  exact requested.heed

/-- The second wakeup finds the event of the first. -/
theorem last_request_wakeup :
    Heeded 0 .wakeup (start.run [.sleep, .turn, .wakeup, .wakeup, .leave, .turn]) :=
  last_request [.sleep, .turn, .wakeup] [] (.inr rfl) (by decide) nofun

/-- Taken together, the two events are neither of those the handler knows. -/
theorem last_request_merged : start.run [.sleep, .wakeup, .turn] = start ∧
    ¬Heeded 0 .wakeup (start.run [.sleep, .wakeup, .turn, .leave, .turn]) := by
  decide

end AudioThread

end Hfirmware.Bluetooth.A2dp
