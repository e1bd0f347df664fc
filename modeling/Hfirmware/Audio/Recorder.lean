/-
The recorder takes memory, a file and the recording stream in three modules and one
thread, with a clean-up of its own on each path that fails and another one at the stop.
-/

import Hfirmware.GuardedRun
import Hfirmware.Ownership

namespace Hfirmware.Audio.Recorder

open Ownership Ledger GuardedRun

inductive Resource where
  | block | file
deriving DecidableEq

abbrev Heap : Type := Ledger Resource

variable {heap : Heap} {blocks files : List Nat}

structure Start where
  (mounted recAlloc aiAlloc recordStarts writerAlloc musicAlloc : Bool)
  (fileAlloc pathAlloc opens threadStarts : Bool)

structure Thread where
  (bufferAlloc headerWritten : Bool)

/-- `hs_recwr_t`, with its open file and the working area of its thread. -/
structure Writer where
  (self pstFile file pstThd : Nat)
deriving DecidableEq

structure Ai where
  self : Nat
  u8IsStart : Bool
deriving DecidableEq

structure Rec where
  self : Nat
  pstAi : Ai
  pstRecWr : Writer

def recwrCreateFile (start : Start) (heap : Heap) : Option (Nat × Nat) × Heap :=
  if start.fileAlloc then
    let pstFile := heap.issued
    let heap := heap.issue .block
    if start.pathAlloc then
      let ptPath := heap.issued
      let heap := heap.issue .block
      if start.opens then
        let file := heap.issued
        let heap := heap.issue .file
        (some (pstFile, file), heap.free .block ptPath)
      else (none, (heap.free .block pstFile).free .block ptPath)
    else (none, heap.free .block pstFile)
  else (none, heap)

def recwrCloseFile (pstFile file : Nat) (heap : Heap) : Heap :=
  (heap.free .file file).free .block pstFile

def recwrStart (start : Start) (heap : Heap) : Option Writer × Heap :=
  if start.writerAlloc then
    let pstRecWr := heap.issued
    let heap := heap.issue .block
    if start.musicAlloc then
      let music := heap.issued
      let heap := heap.issue .block
      match recwrCreateFile start heap with
      | (none, heap) => (none, (heap.free .block pstRecWr).free .block music)
      | (some (pstFile, file), heap) =>
        if start.threadStarts then
          let pstThd := heap.issued
          let heap := heap.issue .block
          (some ⟨pstRecWr, pstFile, file, pstThd⟩, heap.free .block music)
        else
          (none, ((recwrCloseFile pstFile file heap).free .block pstRecWr).free .block music)
    else (none, heap.free .block pstRecWr)
  else (none, heap)

def recwrThread (thread : Thread) (heap : Heap) : Heap :=
  if thread.bufferAlloc then
    let pu8Ptr := heap.issued
    let heap := heap.issue .block
    if thread.headerWritten then heap.free .block pu8Ptr else heap
  else heap

def recwrStop (thread : Thread) (writer : Writer) (heap : Heap) : Heap :=
  let heap := (recwrThread thread heap).free .block writer.pstThd
  (recwrCloseFile writer.pstFile writer.file heap).free .block writer.pstFile

structure State where
  heap : Heap
  streaming : Bool
  g_pstRecorder : Option Rec

def State.init : State := ⟨.empty, false, none⟩

def aiDestroy (pstAi : Ai) (state : State) : State :=
  { state with
    heap := state.heap.free .block pstAi.self
    streaming := state.streaming && !pstAi.u8IsStart }

def recorderDestroy (thread : Thread) (pstRec : Rec) (state : State) : State :=
  let state := { state with heap := recwrStop thread pstRec.pstRecWr state.heap }
  let state := aiDestroy pstRec.pstAi state
  { state with heap := state.heap.free .block pstRec.self, g_pstRecorder := none }

def recorderStart (start : Start) (state : State) : State :=
  if start.mounted && start.recAlloc then
    let pstRec := state.heap.issued
    let heap := state.heap.issue .block
    if start.aiAlloc then
      let pstAi : Ai := ⟨heap.issued, start.recordStarts⟩
      let heap := heap.issue .block
      let streaming := state.streaming || start.recordStarts
      match recwrStart start heap with
      | (none, heap) =>
        let state := aiDestroy pstAi { state with heap, streaming }
        { state with heap := state.heap.free .block pstRec }
      | (some writer, heap) => ⟨heap, streaming, some ⟨pstRec, pstAi, writer⟩⟩
    else { state with heap := heap.free .block pstRec }
  else state

structure Switch where
  start : Start
  thread : Thread

def State.step (state : State) (switch : Switch) : State :=
  match state.g_pstRecorder with
  | some pstRec => recorderDestroy switch.thread pstRec state
  | none => recorderStart switch.start state

structure Tidy (state : State) : Prop where
  clean : state.g_pstRecorder = none → Clean state.heap fun _ => []
  quiet : state.g_pstRecorder = none → state.streaming = false

/-! ### Blocks and files that are held -/

def holding (blocks files : List Nat) : Resource → List Nat
  | .block => blocks
  | .file => files

theorem update_blocks (blocks files other : List Nat) :
    Function.update (holding blocks files) .block other = holding other files := by
  funext resource
  cases resource <;> rfl

theorem update_files (blocks files other : List Nat) :
    Function.update (holding blocks files) .file other = holding blocks other := by
  funext resource
  cases resource <;> rfl

structure Kept (heap : Heap) (blocks files : List Nat) : Prop where
  balanced : Balanced heap (holding blocks files)
  strays : heap.strays = []

namespace Kept

variable {rest : List Nat} {block : Nat}

section

variable (kept : Kept heap blocks files)
include kept

theorem issueBlock : Kept (heap.issue .block) (heap.issued :: blocks) files := by
  have balanced := kept.balanced.issue .block
  rw [update_blocks] at balanced
  exact ⟨balanced, kept.strays⟩

theorem issueFile : Kept (heap.issue .file) blocks (heap.issued :: files) := by
  have balanced := kept.balanced.issue .file
  rw [update_files] at balanced
  exact ⟨balanced, kept.strays⟩

theorem freeBlock (holds : blocks.Perm (block :: rest)) :
    Kept (heap.free .block block) rest files := by
  have front : Balanced heap (holding (block :: rest) files) :=
    kept.balanced.perm fun resource => by
      cases resource with
      | block => exact holds.symm
      | file => exact .refl _
  have owned := (front.owner block .block).mpr (.head _)
  have balanced := @Balanced.free _ _ _ .block block _ front rest rfl
  rw [update_blocks] at balanced
  refine ⟨balanced, ?_⟩
  rw [free_strays, use_of_owner owned]
  exact kept.strays

end

theorem freeFile {file : Nat} (kept : Kept heap blocks (file :: files)) :
    Kept (heap.free .file file) blocks files := by
  have owned := (kept.balanced.owner file .file).mpr (.head _)
  have balanced := @Balanced.free _ _ _ .file file _ kept.balanced files rfl
  rw [update_files] at balanced
  refine ⟨balanced, ?_⟩
  rw [free_strays, use_of_owner owned]
  exact kept.strays

theorem freeLast (kept : Kept heap (block :: blocks) files) :
    Kept (heap.free .block block) blocks files :=
  kept.freeBlock (.refl _)

theorem freeSecond {last : Nat} (kept : Kept heap (last :: block :: blocks) files) :
    Kept (heap.free .block block) (last :: blocks) files :=
  kept.freeBlock (List.Perm.swap _ _ _)

theorem clean (kept : Kept heap [] []) : Clean heap fun _ => [] := by
  refine ⟨kept.strays, fun block below => ?_⟩
  rcases kept.balanced.once below with freed | ⟨_, resource, member⟩
  · exact .inl freed
  · cases resource <;> cases member

end Kept

section

theorem Kept.createFile (kept : Kept heap blocks files) (start : Start) :
    match recwrCreateFile start heap with
    | (none, heap) => Kept heap blocks files
    | (some (pstFile, file), heap) => Kept heap (pstFile :: blocks) (file :: files) := by
  unfold recwrCreateFile
  cases start.fileAlloc with
  | false => exact kept
  | true =>
    cases start.pathAlloc with
    | false => exact kept.issueBlock.freeLast
    | true =>
      cases start.opens with
      | false => exact kept.issueBlock.issueBlock.freeSecond.freeLast
      | true => exact kept.issueBlock.issueBlock.issueFile.freeLast

theorem Kept.recwrStart (kept : Kept heap blocks files) (start : Start) :
    match recwrStart start heap with
    | (none, heap) => Kept heap blocks files
    | (some writer, heap) =>
      Kept heap (writer.pstThd :: writer.pstFile :: writer.self :: blocks)
        (writer.file :: files) := by
  unfold Recorder.recwrStart
  cases start.writerAlloc with
  | false => exact kept
  | true =>
    cases start.musicAlloc with
    | false => exact kept.issueBlock.freeLast
    | true =>
      have taken := kept.issueBlock.issueBlock
      have created := taken.createFile start
      simp only [if_true]
      revert created
      generalize recwrCreateFile start _ = result
      obtain ⟨opened, _⟩ := result
      cases opened with
      | none => exact fun created => created.freeSecond.freeLast
      | some =>
        intro created
        cases start.threadStarts with
        | false => exact created.freeFile.freeLast.freeSecond.freeLast
        | true =>
          exact created.issueBlock.freeBlock
            ((List.Perm.cons _ (List.Perm.swap _ _ _)).trans (List.Perm.swap _ _ _))

def held (pstRec : Rec) : List Nat :=
  [pstRec.pstRecWr.pstThd, pstRec.pstRecWr.pstFile, pstRec.pstRecWr.self, pstRec.pstAi.self,
    pstRec.self]

structure Inv (state : State) : Prop where
  idle : state.g_pstRecorder = none → Kept state.heap [] [] ∧ state.streaming = false
  active : ∀ pstRec, state.g_pstRecorder = some pstRec →
    Kept state.heap (held pstRec) [pstRec.pstRecWr.file] ∧ state.streaming = pstRec.pstAi.u8IsStart

theorem Inv.start {state : State} (inv : Inv state) (idle : state.g_pstRecorder = none)
    (start : Start) : Inv (recorderStart start state) := by
  obtain ⟨kept, quiet⟩ := inv.idle idle
  have stays {heap : Heap} (kept : Kept heap [] []) : Inv { state with heap } :=
    ⟨fun _ => ⟨kept, quiet⟩, fun pstRec active => nomatch idle.symm.trans active⟩
  unfold recorderStart
  cases start.mounted && start.recAlloc with
  | false => exact inv
  | true =>
    cases start.aiAlloc with
    | false => exact stays kept.issueBlock.freeLast
    | true =>
      have started := kept.issueBlock.issueBlock.recwrStart start
      simp only [if_true]
      revert started
      generalize recwrStart start _ = result
      obtain ⟨writer, _⟩ := result
      cases writer with
      | none =>
        intro started
        refine ⟨fun _ => ⟨started.freeLast.freeLast, ?_⟩,
          fun pstRec active => nomatch idle.symm.trans active⟩
        rw [quiet]
        cases start.recordStarts <;> rfl
      | some =>
        intro started
        refine ⟨nofun, fun pstRec active => ?_⟩
        cases active
        refine ⟨started, ?_⟩
        rw [quiet, Bool.false_or]

theorem Inv.tidy {state : State} (inv : Inv state) : Tidy state :=
  ⟨fun idle => (inv.idle idle).1.clean, fun idle => (inv.idle idle).2⟩

theorem Inv.init : Inv .init :=
  ⟨fun _ => ⟨⟨balanced_empty.perm fun resource => by cases resource <;> exact .refl _,
    rfl⟩, rfl⟩, nofun⟩

end

section

variable {pstRec : Rec} {state : State}

theorem recorderDestroy_strays (thread : Thread) :
    (recorderDestroy thread pstRec state).heap.strays ≠ [] := by
  refine strays_free (strays_free (strays_free_of_not_owner ?_))
  unfold recwrCloseFile
  rw [free_owner, if_pos rfl]
  nofun

end

def State.run (state : State) (switches : List Switch) : State := switches.foldl State.step state

def Starts (state : State) (_ : Switch) : Prop := state.g_pstRecorder = none

theorem Inv.step {state : State} (inv : Inv state) {switch : Switch}
    (starts : Starts state switch) : Inv (state.step switch) := by
  unfold State.step
  rw [show state.g_pstRecorder = none from starts]
  exact inv.start starts switch.start

theorem starts_of_tidy {switches : List Switch} {state : State}
    (tidy : ∀ before after, switches = before ++ after → Tidy (state.run before)) :
    Along State.step Starts state switches := by
  induction switches generalizing state with
  | nil => trivial
  | cons switch rest ih =>
    refine ⟨?_, ih fun before after same =>
      tidy (switch :: before) after (congrArg (switch :: ·) same)⟩
    change state.g_pstRecorder = none
    cases active : state.g_pstRecorder with
    | none => rfl
    | some pstRec =>
      have stopped := tidy [switch] rest rfl
      have next : state.run [switch] = recorderDestroy switch.thread pstRec state := by
        change state.step switch = _
        unfold State.step
        rw [active]
      rw [next] at stopped
      exact absurd (stopped.clean rfl).strays (recorderDestroy_strays switch.thread)

/-- Memory, files and stream balance whenever no recorder is active exactly if the
switch never stops an active one. -/
theorem recorder_balance (switches : List Switch) :
    (∀ before after, switches = before ++ after → Tidy (State.run .init before)) ↔
      Along State.step Starts .init switches := by
  refine ⟨starts_of_tidy, fun along before after same => ?_⟩
  have preserved : ∀ state switch, Inv state → Starts state switch → Inv (state.step switch) :=
    fun _ _ inv starts => inv.step starts
  rw [same] at along
  exact (invariant_of_along preserved Inv.init (along_append.mp along).1).tidy

def goodStart : Start := ⟨true, true, true, true, true, true, true, true, true, true⟩

/-- One recording that goes well from start to stop leaks the writer and frees the
object of the file twice. -/
theorem recorder_balance_stop :
    let switch : Switch := ⟨goodStart, ⟨true, true⟩⟩
    let stopped := State.run .init [switch, switch]
    stopped.g_pstRecorder = none ∧ stopped.heap.frees 2 = 0 ∧ stopped.heap.frees 4 = 2 ∧
      ¬Tidy stopped := by
  refine ⟨rfl, rfl, rfl, fun tidy => ?_⟩
  exact absurd (tidy.clean rfl).strays (by decide)

end Hfirmware.Audio.Recorder
