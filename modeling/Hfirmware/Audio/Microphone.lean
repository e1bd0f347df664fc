/-
The clients of the recording driver: Bluetooth, which starts again when it is called
back, and another client such as `ai.c`.
-/

import Hfirmware.Audio.Playback

namespace Hfirmware.Audio.Microphone

open GuardedRun

inductive RecClient where
  | bluetooth | other
deriving DecidableEq

/-- The recording half of `g_audio_info`, the flags of `app_fsm.c` and
`pstAi->u8IsStart`. Of an event node the list keeps the callback. -/
structure Mic where
  state : AudioState
  rx_event : List (Option RecClient)
  (app_fsm_record_start app_fsm_record_local_close : Bool)
  (app_fsm_record_remote_close u8IsStart : Bool)

/-- Whether `i2s_lld_record_start` succeeds, and whether there is memory for an
event node. -/
structure RecOutcome where
  (record_start new_event : Bool)
deriving DecidableEq

def RecOutcome.ok (outcome : RecOutcome) : Bool := outcome.record_start && outcome.new_event

def audioRecStop (mic : Mic) : Mic := { mic with state := .ready }

def onStopped : RecClient → Mic → Mic
  | .bluetooth, mic => { mic with app_fsm_record_local_close := true }
  | .other, mic => mic

def audioDoStopped (mic : Mic) : Mic :=
  match mic.rx_event with
  | some client :: _ => onStopped client mic
  | _ => mic

def audioRecordStart (event_fun : Option RecClient) (outcome : RecOutcome) (mic : Mic) :
    Bool × Mic :=
  if mic.state ≠ .ready ∧ mic.state ≠ .runing then (false, mic)
  else
    let idle := if mic.state = .runing then audioRecStop (audioDoStopped mic) else mic
    if !outcome.record_start then (false, idle)
    else if !outcome.new_event then (false, audioRecStop idle)
    else (true, { idle with state := .runing, rx_event := event_fun :: idle.rx_event })

/-- The loop of `_audio_do_event` over nodes without a callback; the last node is
kept. -/
def skipUnregistered : List (Option RecClient) → List (Option RecClient)
  | none :: next :: rest => skipUnregistered (next :: rest)
  | nodes => nodes

def audioDoResume (resume : RecClient → Mic → Mic) (mic : Mic) : Mic :=
  match mic.rx_event with
  | [] => mic
  | _ :: rest =>
    match skipUnregistered rest with
    | [] => { mic with rx_event := [] }
    | none :: below => { mic with rx_event := below }
    | some client :: below => resume client { mic with rx_event := below }

/-- `App_AudioRecordCb` with `AUDIO_EVENT_RESUME`. A failure returns before the
local close is taken back. -/
def appAudioRecordCb (first second : RecOutcome) (mic : Mic) : Mic :=
  if mic.app_fsm_record_remote_close then
    { mic with app_fsm_record_remote_close := false, app_fsm_record_local_close := false }
  else
    let (_, once) := audioRecordStart (some .bluetooth) first mic
    match audioRecordStart (some .bluetooth) second once with
    | (false, failed) => { failed with app_fsm_record_start := false }
    | (true, recording) =>
      { recording with app_fsm_record_start := true, app_fsm_record_local_close := false }

def onResume (first second : RecOutcome) : RecClient → Mic → Mic
  | .bluetooth, mic => appAudioRecordCb first second mic
  | .other, mic => mic

/-- `audioRecordStop`; `first` and `second` are for the starts of Bluetooth's
callback, if it is called. -/
def audioRecordStop (first second : RecOutcome) (mic : Mic) : Mic :=
  audioDoResume (onResume first second) (audioRecStop mic)

def appAudioRecordStart (outcome : RecOutcome) (mic : Mic) : Mic :=
  if mic.app_fsm_record_start then mic
  else
    match audioRecordStart (some .bluetooth) outcome { mic with app_fsm_record_start := true } with
    | (false, failed) => { failed with app_fsm_record_start := false }
    | (true, recording) =>
      { recording with
        app_fsm_record_remote_close := false
        app_fsm_record_local_close := false }

def appAudioStop (first second : RecOutcome) (mic : Mic) : Mic :=
  if mic.app_fsm_record_start then
    if mic.app_fsm_record_local_close then
      { mic with app_fsm_record_start := false, app_fsm_record_remote_close := true }
    else audioRecordStop first second { mic with app_fsm_record_start := false }
  else mic

def aiStart (event_fun : Option RecClient) (outcome : RecOutcome) (mic : Mic) : Mic :=
  if mic.u8IsStart then mic
  else
    match audioRecordStart event_fun outcome mic with
    | (false, failed) => failed
    | (true, recording) => { recording with u8IsStart := true }

def aiStop (first second : RecOutcome) (mic : Mic) : Mic :=
  if mic.u8IsStart then audioRecordStop first second { mic with u8IsStart := false } else mic

inductive MicAction where
  | recordStart (outcome : RecOutcome)
  | stop (first second : RecOutcome)
  | otherStart (outcome : RecOutcome)
  | otherStop (first second : RecOutcome)

/-- The clients, and whether `App_AudioStop` has returned since the last
`App_AudioRecordStart`. -/
structure MicRun where
  mic : Mic
  stopped : Bool

def otherFun (registered : Bool) : Option RecClient := if registered then some .other else none

def MicRun.step (registered : Bool) (run : MicRun) : MicAction → MicRun
  | .recordStart outcome => ⟨appAudioRecordStart outcome run.mic, false⟩
  | .stop first second => ⟨appAudioStop first second run.mic, true⟩
  | .otherStart outcome =>
    { run with mic := aiStart (otherFun registered) outcome run.mic }
  | .otherStop first second => { run with mic := aiStop first second run.mic }

def micReady : Mic := ⟨.ready, [], false, false, false, false⟩

def MicRun.Off (run : MicRun) : Prop :=
  run.stopped = true → run.mic.u8IsStart = false →
    run.mic.state = .ready ∧ some .bluetooth ∉ run.mic.rx_event

/-- Bluetooth has at most one node: it is not started while an old one waits, and no
start fails after it has interrupted Bluetooth. -/
def OneNode (run : MicRun) : MicAction → Prop
  | .recordStart _ =>
    run.mic.app_fsm_record_start = true ∨ some .bluetooth ∉ run.mic.rx_event
  | .stop _ _ => True
  | .otherStart outcome =>
    run.mic.u8IsStart = false → run.mic.state = .runing →
      run.mic.rx_event.head? = some (some .bluetooth) → outcome.ok = true
  | .otherStop first _ =>
    some .bluetooth ∈ run.mic.rx_event.tail →
      run.mic.app_fsm_record_remote_close = true ∨ first.ok = false

instance (run : MicRun) (action : MicAction) : Decidable (OneNode run action) := by
  cases action <;> unfold OneNode <;> infer_instance

/-! ### Where the node of Bluetooth is -/

inductive Shape (registered : Bool) : MicRun → Prop
  /-- Bluetooth may believe that it records: the other client's stop stops whoever
  is on top. -/
  | idle {start close isStart stopped : Bool} (flags : (start && close) = false)
      (asked : stopped = true → start = false) :
      Shape registered ⟨⟨.ready, [], start, close, false, isStart⟩, stopped⟩
  | other {state : AudioState} {start close stopped : Bool}
      (used : state = .ready ∨ state = .runing) (flags : (start && close) = false)
      (asked : stopped = true → start = false) :
      Shape registered ⟨⟨state, [otherFun registered], start, close, false, true⟩, stopped⟩
  | bluetooth {isStart : Bool} :
      Shape registered ⟨⟨.runing, [some .bluetooth], true, false, false, isStart⟩, false⟩
  | overOther :
      Shape registered
        ⟨⟨.runing, [some .bluetooth, otherFun registered], true, false, false, true⟩, false⟩
  | waiting {start stopped : Bool} (asked : stopped = true → start = false) :
      Shape registered
        ⟨⟨.runing, [otherFun registered, some .bluetooth], start, true, !start, true⟩, stopped⟩

variable {registered : Bool} {run : MicRun} {outcome : RecOutcome}

section

variable (shape : Shape registered run)
include shape

theorem Shape.off : run.Off := by
  intro stopped isStart
  cases shape with
  | idle => exact ⟨rfl, List.not_mem_nil⟩
  | other | waiting => cases isStart
  | bluetooth | overOther => cases stopped

theorem Shape.recordStart (may : OneNode run (.recordStart outcome)) :
    Shape registered (run.step registered (.recordStart outcome)) := by
  obtain ⟨record_start, new_event⟩ := outcome
  cases shape with
  | @idle start close _ stopped flags asked =>
    cases start with
    | true =>
      cases close with
      | true => cases flags
      | false => exact .idle rfl nofun
    | false =>
      cases record_start with
      | false => exact .idle rfl nofun
      | true =>
        cases new_event with
        | false => exact .idle rfl nofun
        | true => exact .bluetooth
  | @other _ start close stopped used flags asked =>
    cases start with
    | true =>
      cases close with
      | true => cases flags
      | false => exact .other used rfl nofun
    | false =>
      -- The other client is told, if it has a callback, and its node stays.
      cases registered <;> rcases used with rfl | rfl <;> cases record_start with
      | false => exact .other (.inl rfl) rfl nofun
      | true =>
        cases new_event with
        | false => exact .other (.inl rfl) rfl nofun
        | true => exact .overOther
  | bluetooth => exact .bluetooth
  | overOther => exact .overOther
  | @waiting start stopped asked =>
    cases start with
    | true => exact .waiting nofun
    | false =>
      rcases may with on | absent
      · cases on
      · exact absurd (.tail _ (.head _)) absent

theorem Shape.stop {first second : RecOutcome} :
    Shape registered (run.step registered (.stop first second)) := by
  cases shape with
  | @idle start close _ stopped flags asked =>
    cases start with
    | false => exact .idle rfl fun _ => rfl
    | true =>
      cases close with
      | true => cases flags
      | false => exact .idle rfl fun _ => rfl
  | @other _ start close stopped used flags asked =>
    cases start with
    | false => exact .other used rfl fun _ => rfl
    | true =>
      cases close with
      | true => cases flags
      | false => exact .idle rfl fun _ => rfl
  | bluetooth => exact .idle rfl fun _ => rfl
  | overOther => cases registered <;> exact .idle rfl fun _ => rfl
  | @waiting start stopped asked => cases start <;> exact .waiting fun _ => rfl

theorem Shape.otherStart (may : OneNode run (.otherStart outcome)) :
    Shape registered (run.step registered (.otherStart outcome)) := by
  obtain ⟨record_start, new_event⟩ := outcome
  cases shape with
  | @idle _ _ isStart _ flags asked =>
    cases isStart with
    | true => exact .idle flags asked
    | false =>
      cases record_start with
      | false => exact .idle flags asked
      | true =>
        cases new_event with
        | false => exact .idle flags asked
        | true => exact .other (.inr rfl) flags asked
  | other used flags asked => exact .other used flags asked
  | @bluetooth isStart =>
    cases isStart with
    | true => exact .bluetooth
    | false =>
      have ok := may rfl rfl rfl
      obtain ⟨rfl, rfl⟩ := Bool.and_eq_true_iff.mp ok
      exact .waiting nofun
  | overOther => exact .overOther
  | waiting asked => exact .waiting asked

end

theorem audioRecordStart_fails {mic : Mic} {event_fun : Option RecClient}
    (ready : mic.state = .ready) (fails : outcome.ok = false) :
    audioRecordStart event_fun outcome mic = (false, mic) := by
  obtain ⟨record_start, new_event⟩ := outcome
  obtain ⟨state, _, _, _, _, _⟩ := mic
  obtain rfl : state = .ready := ready
  cases record_start with
  | false => rfl
  | true =>
    cases new_event with
    | false => rfl
    | true => cases fails

theorem Shape.otherStop (shape : Shape registered run) {first second : RecOutcome}
    (may : OneNode run (.otherStop first second)) :
    Shape registered (run.step registered (.otherStop first second)) := by
  cases shape with
  | @idle start _ isStart stopped flags asked => cases isStart <;> exact .idle flags asked
  | other _ flags asked => exact .idle flags asked
  | @bluetooth isStart =>
    cases isStart with
    | false => exact .bluetooth
    | true => exact .idle rfl nofun
  | overOther => cases registered <;> exact .idle rfl nofun
  | @waiting start stopped asked =>
    cases start with
    | false => exact .idle rfl fun _ => rfl
    | true =>
      have never : stopped = false := by
        cases stopped with
        | false => rfl
        | true => cases asked rfl
      subst never
      have fails : first.ok = false :=
        (may (.head _)).resolve_left nofun
      obtain ⟨record_start, new_event⟩ := second
      change Shape registered ⟨appAudioRecordCb first ⟨record_start, new_event⟩
        ⟨.ready, [], true, true, false, false⟩, false⟩
      unfold appAudioRecordCb
      rw [audioRecordStart_fails rfl fails]
      cases record_start with
      | false => exact .idle rfl nofun
      | true =>
        cases new_event with
        | false => exact .idle rfl nofun
        | true => exact .bluetooth

theorem Shape.step (shape : Shape registered run) {action : MicAction}
    (may : OneNode run action) : Shape registered (run.step registered action) := by
  cases action with
  | recordStart => exact shape.recordStart may
  | stop => exact shape.stop
  | otherStart => exact shape.otherStart may
  | otherStop => exact shape.otherStop may

/-- Every run of Bluetooth and the other client in which Bluetooth never has more
than one node. -/
theorem microphone_off (registered : Bool) (actions : List MicAction)
    (guarded : Along (MicRun.step registered) OneNode ⟨micReady, false⟩ actions) :
    (actions.foldl (MicRun.step registered) ⟨micReady, false⟩).Off := by
  have initial : Shape registered ⟨micReady, false⟩ := .idle rfl fun never => nomatch never
  exact (invariant_of_along (fun _ _ shape may => shape.step may) initial guarded).off

/-- Bluetooth is stopped under the other client and declines; the other client's
next start and stop find nobody. -/
theorem microphone_off_declined :
    let actions : List MicAction :=
      [.recordStart ⟨true, true⟩, .otherStart ⟨true, true⟩, .stop ⟨true, true⟩ ⟨true, true⟩,
        .otherStop ⟨true, true⟩ ⟨true, true⟩]
    (actions.foldl (MicRun.step false) ⟨micReady, false⟩).Off ∧
      (actions.foldl (MicRun.step false) ⟨micReady, false⟩).stopped = true :=
  ⟨microphone_off false _ (by decide), rfl⟩

/-- Bluetooth is interrupted once and goes on afterwards with two nodes, and
`App_AudioStop` starts the microphone again. -/
theorem microphone_off_resumed :
    let actions : List MicAction :=
      [.recordStart ⟨true, true⟩, .otherStart ⟨true, true⟩,
        .otherStop ⟨true, true⟩ ⟨true, true⟩, .stop ⟨true, true⟩ ⟨true, true⟩]
    let run := actions.foldl (MicRun.step false) ⟨micReady, false⟩
    run.stopped = true ∧ run.mic.u8IsStart = false ∧ run.mic.state = .runing ∧
      run.mic.rx_event = [some .bluetooth, some .bluetooth] ∧ ¬run.Off := by
  refine ⟨rfl, rfl, rfl, rfl, fun off => ?_⟩
  cases (off rfl rfl).1

end Hfirmware.Audio.Microphone
