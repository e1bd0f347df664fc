/-
The two stream handles of A2DP.
-/

import Hfirmware.Bluetooth.A2dpLinks

namespace Hfirmware.Bluetooth.A2dp

open List Option AppConnInst Links GuardedRun

structure Watched where
  links : Links
  streaming : List Nat

def observe (streaming : List Nat) : LinkEvent → List Nat
  | .streamStart (some handle) => handle :: streaming
  | .streamSuspend (some handle) _ => streaming.filter (· ≠ handle)
  | .streamDone (some handle) => streaming.filter (· ≠ handle)
  | _ => streaming

def Watched.step (watched : Watched) (event : LinkEvent) : Watched :=
  { links := watched.links.step event
    streaming := observe watched.streaming event }

def Live (list : List AppConnInst) (handle : Nat) : Prop :=
  ∃ inst ∈ list, inst.service_class = .audioSource ∧ inst.profile_inst_handle = some handle

structure Watched.Owned (watched : Watched) : Prop where
  audio : ∀ handle, watched.links.m_audio_stream_handle = some handle →
    Live watched.links.connection_list handle
  playing : watched.links.s_a2dp_play_state = .start →
    ∃ handle, watched.links.s_a2dp_stream_handle = some handle ∧
      Live watched.links.connection_list handle ∧ handle ∈ watched.streaming

/-- What AVDTP sees to: a new stream has a handle of its own and belongs to a device
without a stream, and only streams of live connections are started. -/
def FromStack (watched : Watched) : LinkEvent → Prop
  | .streamCreate bd handle => ∃ new, handle = some new ∧
      (∀ inst ∈ watched.links.connection_list, inst.profile_inst_handle ≠ some new) ∧
      ∀ inst, watched.links.findByBD bd = some inst → inst.profile_inst_handle = none
  | .streamStart handle => ∃ stream, handle = some stream ∧
      Live watched.links.connection_list stream
  | .streamOpen handle => ∀ inst ∈ watched.links.connection_list,
      inst.profile_inst_handle = handle → inst.service_class = .audioSource
  | _ => True

def Released (watched : Watched) : LinkEvent → Prop
  | .streamDone (some handle) =>
    watched.links.m_audio_stream_handle ≠ some handle ∧ (watched.links.s_a2dp_play_state = .start →
        watched.links.s_a2dp_stream_handle = some handle →
          watched.links.s_a2dp_multi_link_num = watched.links.s_a2dp_free_link_num + 1)
  | _ => True

def handles (list : List AppConnInst) : List Nat :=
  list.filterMap AppConnInst.profile_inst_handle

variable {handle : Nat} {list : List AppConnInst}

theorem Live.append (live : Live list handle)
    (more : List AppConnInst) : Live (list ++ more) handle := by
  obtain ⟨inst, member, facts⟩ := live
  exact ⟨inst, mem_append_left _ member, facts⟩

variable {bd : Fin 6 → UInt8} {inst : AppConnInst}

section

variable (found : list.find? (isSource bd) = some inst)
include found

theorem handles_setHandle {new : Nat} (unset : inst.profile_inst_handle = none) :
    (handles (setHandle bd (some new) list)).Perm (new :: handles list) := by
  induction list with
  | nil => cases found
  | cons first _ ih =>
    unfold setHandle
    by_cases here : first.isSource bd
    · rw [find?_cons_of_pos here, some_inj] at found
      rw [if_pos here, found]
      unfold handles
      rw [filterMap_cons_some (by rfl), filterMap_cons_none unset]
    · rw [find?_cons_of_neg here] at found
      rw [if_neg here]
      cases handle : first.profile_inst_handle with
      | none =>
        unfold handles
        rw [filterMap_cons_none handle, filterMap_cons_none handle]
        exact ih found
      | some old =>
        unfold handles
        rw [filterMap_cons_some handle, filterMap_cons_some handle]
        exact ((ih found).cons old).trans (List.Perm.swap new old _)

theorem live_setHandle {new : Nat} : Live (setHandle bd (some new) list) new := by
  induction list with
  | nil => cases found
  | cons first _ ih =>
    unfold setHandle
    by_cases here : first.isSource bd
    · rw [if_pos here]
      have source := of_decide_eq_true ((Bool.and_eq_true_iff.mp here).1)
      exact ⟨_, .head _, source, rfl⟩
    · rw [find?_cons_of_neg here] at found
      rw [if_neg here]
      obtain ⟨inst, member, facts⟩ := ih found
      exact ⟨inst, .tail _ member, facts⟩

theorem Live.setHandle {new : Handle}
    (unset : inst.profile_inst_handle = none) (live : Live list handle) :
    Live (setHandle bd new list) handle := by
  induction list with
  | nil => cases found
  | cons first _ ih =>
    obtain ⟨holder, member, source, equal⟩ := live
    unfold A2dp.setHandle
    by_cases here : first.isSource bd
    · rw [find?_cons_of_pos here, some_inj] at found
      rw [if_pos here]
      cases member with
      | head =>
        rw [found, unset] at equal
        cases equal
      | tail _ later => exact ⟨holder, .tail _ later, source, equal⟩
    · rw [find?_cons_of_neg here] at found
      rw [if_neg here]
      cases member with
      | head => exact ⟨_, .head _, source, equal⟩
      | tail _ later =>
        obtain ⟨other, inside, facts⟩ := ih found ⟨holder, later, source, equal⟩
        exact ⟨other, .tail _ inside, facts⟩

end

theorem Live.eraseP {closed : Handle} (live : Live list handle) (other : closed ≠ some handle) :
    Live (list.eraseP (hasHandle closed)) handle := by
  obtain ⟨inst, member, source, equal⟩ := live
  refine ⟨inst, (mem_eraseP_of_neg ?_).mpr member, source, equal⟩
  intro matched
  have same := of_decide_eq_true matched
  exact other (same.symm.trans equal)

theorem not_live_eraseP (distinct : (handles list).Nodup) :
    ¬Live (list.eraseP (hasHandle (some handle))) handle := by
  intro live
  induction list with
  | nil =>
    obtain ⟨_, member, _⟩ := live
    cases member
  | cons first rest ih =>
    by_cases here : first.hasHandle (some handle)
    · have equal := of_decide_eq_true here
      rw [eraseP_cons_of_pos here] at live
      unfold handles at distinct
      rw [filterMap_cons_some equal, nodup_cons] at distinct
      obtain ⟨other, listed, _, same⟩ := live
      exact distinct.1 (mem_filterMap.mpr ⟨other, listed, same⟩)
    · rw [eraseP_cons_of_neg here] at live
      obtain ⟨inst, member, source, equal⟩ := live
      have tail := distinct.sublist ((sublist_cons_self first rest).filterMap _)
      cases member with
      | head => exact here (decide_eq_true equal)
      | tail _ later => exact ih tail ⟨inst, later, source, equal⟩

/-! ### One event -/

structure Watched.Sound (watched : Watched) : Prop where
  owned : watched.Owned
  distinct : (handles watched.links.connection_list).Nodup
  stream : ∀ handle, watched.links.s_a2dp_stream_handle = some handle →
    Live watched.links.connection_list handle

variable {watched : Watched}

theorem Watched.Sound.extend (sound : watched.Sound) {next : Links}
    (distinct : (handles next.connection_list).Nodup)
    (live : ∀ handle, Live watched.links.connection_list handle → Live next.connection_list handle)
    (audio : next.m_audio_stream_handle = watched.links.m_audio_stream_handle)
    (state : next.s_a2dp_play_state = watched.links.s_a2dp_play_state)
    (stream : next.s_a2dp_stream_handle = watched.links.s_a2dp_stream_handle ∨
      watched.links.s_a2dp_play_state ≠ .start ∧
        ∀ handle, next.s_a2dp_stream_handle = some handle → Live next.connection_list handle) :
    Watched.Sound { links := next, streaming := watched.streaming } := by
  refine ⟨⟨?_, ?_⟩, distinct, ?_⟩
  · intro handle equal
    exact live handle (sound.owned.audio handle (audio.symm.trans equal))
  · intro start
    have playing := state.symm.trans start
    obtain ⟨handle, equal, alive, member⟩ := sound.owned.playing playing
    cases stream with
    | inl same => exact ⟨handle, same.trans equal, live handle alive, member⟩
    | inr changed => exact absurd playing changed.1
  · intro handle equal
    cases stream with
    | inl same => exact live handle (sound.stream handle (same.symm.trans equal))
    | inr changed => exact changed.2 handle equal

theorem handles_append_unset (list : List AppConnInst) (unset : inst.profile_inst_handle = none) :
    handles (list ++ [inst]) = handles list := by
  unfold handles
  rw [filterMap_append, filterMap_cons_none unset, filterMap_nil, append_nil]

def newInst (links : Links) (bd : Fin 6 → UInt8) (role : Role) : AppConnInst :=
  { profile_inst_handle := none
    connection_handle := links.handle_base
    service_class := .audioSource
    bd := bd
    role := role }

theorem handles_newInst (links : Links) (bd : Fin 6 → UInt8) (role : Role) :
    handles (links.connection_list ++ [newInst links bd role]) = handles links.connection_list :=
  handles_append_unset links.connection_list rfl

theorem sound_fsmStreamCreateInd (sound : watched.Sound) {handle : Handle}
    (stack : FromStack watched (.streamCreate bd handle)) :
    (watched.step (.streamCreate bd handle)).Sound := by
  obtain ⟨new, rfl, fresh, unused⟩ := stack
  have unlisted : new ∉ handles watched.links.connection_list := by
    intro member
    obtain ⟨inst, inside, equal⟩ := mem_filterMap.mp member
    exact fresh inst inside equal
  change Watched.Sound { links := watched.links.fsmStreamCreateInd bd (some new),
                         streaming := watched.streaming }
  unfold fsmStreamCreateInd
  cases found : watched.links.findByBD bd with
  | some inst =>
    have unset := unused inst found
    refine sound.extend ?_ (fun handle live => live.setHandle found unset) rfl rfl (.inl rfl)
    exact (handles_setHandle found unset).nodup_iff.mpr (nodup_cons.mpr ⟨unlisted, sound.distinct⟩)
  | none =>
    -- The instance just added is the one that gets the handle.
    have here : (newInst watched.links bd .responder).isSource bd := by
      simp [newInst, isSource]
    have added : (watched.links.connection_list ++ [newInst watched.links bd .responder]).find?
        (isSource bd) = some (newInst watched.links bd .responder) := by
      rw [find?_append, show watched.links.connection_list.find? _ = none from found,
        none_or, find?_cons_of_pos here]
    refine sound.extend ?_ (fun handle live => (live.append _).setHandle added rfl) rfl rfl ?_
    · apply (handles_setHandle added rfl).nodup_iff.mpr
      rw [handles_newInst]
      exact nodup_cons.mpr ⟨unlisted, sound.distinct⟩
    · by_cases playing : watched.links.s_a2dp_play_state = .start
      · exact .inl (if_neg (not_not.mpr playing))
      · right
        refine ⟨playing, fun handle equal => ?_⟩
        have which := (if_pos playing).symm.trans equal
        cases which
        exact live_setHandle added

theorem matched_of_find {links : Links} {handle : Handle}
    (found : links.findByLowerHandle handle = some inst) : inst.profile_inst_handle = handle := by
  have matched := find?_some found
  exact of_decide_eq_true matched

theorem sound_fsmStreamOpenInd (sound : watched.Sound) {handle : Handle}
    (stack : FromStack watched (.streamOpen handle)) :
    (watched.step (.streamOpen handle)).Sound := by
  change Watched.Sound { links := watched.links.fsmStreamOpenInd handle,
                         streaming := watched.streaming }
  unfold fsmStreamOpenInd
  cases found : watched.links.findByLowerHandle handle with
  | none => exact sound
  | some inst =>
    dsimp only
    split
    · refine ⟨⟨sound.owned.audio, nofun⟩, sound.distinct, ?_⟩
      intro _ equal
      have member := List.mem_of_find?_eq_some found
      have matched := matched_of_find found
      exact ⟨inst, member, stack inst member matched, matched.trans equal⟩
    · exact sound

theorem sound_streamStartByHandle (sound : watched.Sound) {handle : Handle}
    (stack : FromStack watched (.streamStart handle)) :
    (watched.step (.streamStart handle)).Sound := by
  obtain ⟨stream, rfl, live⟩ := stack
  change Watched.Sound { links := watched.links.streamStartByHandle (some stream),
                         streaming := stream :: watched.streaming }
  unfold streamStartByHandle
  split
  · refine { sound with owned := ⟨sound.owned.audio, fun start => ?_⟩ }
    obtain ⟨handle, equal, alive, member⟩ := sound.owned.playing start
    exact ⟨handle, equal, alive, .tail _ member⟩
  · refine ⟨⟨?_, fun _ => ⟨stream, rfl, live, .head _⟩⟩, sound.distinct, ?_⟩
    · intro handle equal
      cases equal
      exact live
    · intro handle equal
      cases equal
      exact live

theorem mem_observe_other {streaming : List Nat} {stream : Nat} (member : handle ∈ streaming)
    (other : stream ≠ handle) : handle ∈ streaming.filter (· ≠ stream) :=
  mem_filter.mpr ⟨member, decide_eq_true other.symm⟩

theorem sound_streamSuspendByHandle (sound : watched.Sound) (handle : Handle) (hfpState : Nat) :
    (watched.step (.streamSuspend handle hfpState)).Sound := by
  have paused : ∀ streaming, Watched.Sound
      { links := { watched.links with s_a2dp_play_state := .pause }, streaming := streaming } :=
    fun streaming => { sound with owned := ⟨sound.owned.audio, nofun⟩ }
  unfold Watched.step Links.step streamSuspendByHandle
  dsimp only
  split
  · split
    · exact { sound with owned := ⟨nofun, nofun⟩ }
    · exact paused _
  · rename_i other
    refine { sound with owned := ⟨sound.owned.audio, fun start => ?_⟩ }
    obtain ⟨stream, equal, alive, member⟩ := sound.owned.playing start
    refine ⟨stream, equal, alive, ?_⟩
    cases handle with
    | none => exact member
    | some =>
      apply mem_observe_other member
      rintro rfl
      exact other ⟨equal.symm, start⟩

theorem find_of_live {links : Links} (live : Live links.connection_list handle) :
    ∃ inst, links.findByLowerHandle (some handle) = some inst := by
  obtain ⟨inst, member, _, equal⟩ := live
  apply isSome_iff_exists.mp
  exact find?_isSome.mpr ⟨inst, member, decide_eq_true equal⟩

theorem sound_fsmStreamDoneInd (sound : watched.Sound) (handle : Handle)
    (released : Released watched (.streamDone handle)) :
    (watched.step (.streamDone handle)).Sound := by
  -- A stream other than the closed one counts as streaming as before.
  have streaming : ∀ {stream}, stream ∈ watched.streaming → handle ≠ some stream →
      stream ∈ observe watched.streaming (.streamDone handle) := by
    intro stream member other
    cases handle with
    | none => exact member
    | some => exact mem_observe_other member fun equal => other (congrArg some equal)
  unfold Watched.step Links.step fsmStreamDoneInd
  dsimp only
  cases found : watched.links.findByLowerHandle handle with
  | none =>
    refine { sound with owned := ⟨sound.owned.audio, fun start => ?_⟩ }
    obtain ⟨stream, equal, alive, member⟩ := sound.owned.playing start
    refine ⟨stream, equal, alive, streaming member ?_⟩
    rintro rfl
    obtain ⟨_, listed⟩ := find_of_live alive
    cases found.symm.trans listed
  | some connection =>
    have matched := matched_of_find found
    have distinct := sound.distinct.sublist (((eraseP_sublist (p := hasHandle handle)).filterMap
        AppConnInst.profile_inst_handle))
    have audio : ∀ stream, watched.links.m_audio_stream_handle = some stream →
        Live (watched.links.connection_list.eraseP (hasHandle handle)) stream := by
      intro stream equal
      refine (sound.owned.audio stream equal).eraseP ?_
      rintro rfl
      exact released.1 equal
    have kept : ∀ stream, (if connection.profile_inst_handle = watched.links.s_a2dp_stream_handle
        then none else watched.links.s_a2dp_stream_handle) = some stream →
        watched.links.s_a2dp_stream_handle = some stream ∧ handle ≠ some stream := by
      intro stream equal
      split at equal
      · cases equal
      · rename_i other
        refine ⟨equal, ?_⟩
        rintro rfl
        exact other (matched.trans equal.symm)
    dsimp only
    split
    · exact ⟨⟨audio, nofun⟩, distinct, nofun⟩
    · rename_i notLast
      refine ⟨⟨audio, fun start => ?_⟩, distinct, ?_⟩
      · obtain ⟨stream, equal, alive, member⟩ := sound.owned.playing start
        have other : handle ≠ some stream := by
          rintro rfl
          exact notLast (released.2 start equal)
        refine ⟨stream, ?_, alive.eraseP other, streaming member other⟩
        rwa [if_neg (fun same => other (matched.symm.trans (same.trans equal)))]
      · intro stream equal
        obtain ⟨old, other⟩ := kept stream equal
        exact (sound.stream stream old).eraseP other

variable {event : LinkEvent}

theorem not_owned_of_not_released (sound : watched.Sound)
    (kept : ¬Released watched event) : ¬(watched.step event).Owned := by
  intro owned
  cases event with
  | streamDone handle =>
    cases handle with
    | none => exact kept trivial
    | some closed =>
      apply kept
      unfold Watched.step Links.step fsmStreamDoneInd at owned
      dsimp only at owned
      constructor
      · intro audio
        obtain ⟨inst, found⟩ := find_of_live (sound.owned.audio closed audio)
        rw [found] at owned
        apply @not_live_eraseP closed _ sound.distinct
        dsimp only at owned
        split at owned <;> exact owned.audio closed audio
      · intro start stream
        by_contra notLast
        obtain ⟨inst, found⟩ := find_of_live (sound.stream closed stream)
        rw [found] at owned
        dsimp only at owned
        rw [if_neg notLast] at owned
        obtain ⟨handle, equal, _⟩ := owned.playing start
        rw [if_pos ((matched_of_find found).trans stream.symm)] at equal
        cases equal
  | _ => exact kept trivial

theorem Watched.Sound.step (sound : watched.Sound)
    (stack : FromStack watched event) (released : Released watched event) :
    (watched.step event).Sound := by
  cases event with
  | connect bd =>
    change Watched.Sound { links := watched.links.fsmConnect bd, streaming := watched.streaming }
    unfold fsmConnect
    cases watched.links.findByBD bd with
    | some => exact sound
    | none =>
      refine sound.extend ?_ (fun handle live => live.append _) rfl rfl (.inl rfl)
      exact (handles_newInst watched.links bd .initiator).symm ▸ sound.distinct
  | streamCreate => exact sound_fsmStreamCreateInd sound stack
  | streamOpen => exact sound_fsmStreamOpenInd sound stack
  | streamStart => exact sound_streamStartByHandle sound stack
  | streamSuspend handle hfpState => exact sound_streamSuspendByHandle sound handle hfpState
  | streamDone handle => exact sound_fsmStreamDoneInd sound handle released
  | disconnect handle =>
    change Watched.Sound { links := watched.links.fsmDisconnect handle,
                           streaming := watched.streaming }
    cases fsmDisconnect_cases watched.links handle with
    | inl same => exact same.symm ▸ sound
    | inr reset =>
      rw [reset.2]
      exact ⟨⟨sound.owned.audio, nofun⟩, sound.distinct, nofun⟩
  | enableAudio =>
    exact { sound with owned := ⟨sound.stream, sound.owned.playing⟩ }
  | disableAudio =>
    exact { sound with owned := ⟨nofun, sound.owned.playing⟩ }

def Watched.start (others : List AppConnInst) (num : UInt8) : Watched :=
  { links := (Links.initial others).hscA2dpStartMulti num
    streaming := [] }

theorem sound_watchedStart {others : List AppConnInst} (distinct : (handles others).Nodup)
    (num : UInt8) : (Watched.start others num).Sound := by
  unfold Watched.start hscA2dpStartMulti
  split
  · exact ⟨⟨nofun, nofun⟩, distinct, nofun⟩
  · exact ⟨⟨nofun, nofun⟩, distinct, nofun⟩

/-- The handles are those of live connections after every event exactly if no
stream is closed while it is the decoder's, or while it plays and another link is
taken. -/
theorem stream_ownership (others : List AppConnInst) (distinct : (handles others).Nodup)
    (num : UInt8) (events : List LinkEvent)
    (stack : Along Watched.step FromStack (Watched.start others num) events) :
    Along Watched.step (fun watched event => (watched.step event).Owned)
        (Watched.start others num) events ↔
      Along Watched.step Released (Watched.start others num) events :=
  along_iff
    (fun _ _ sound here => ⟨fun owned =>
        by_contra fun kept => not_owned_of_not_released sound kept owned,
      fun released => (sound.step here released).owned⟩)
    (fun _ _ sound here => sound.step here) (sound_watchedStart distinct num) stack

instance (list : List AppConnInst) (handle : Nat) : Decidable (Live list handle) :=
  inferInstanceAs (Decidable (∃ _ ∈ list, _ ∧ _))

theorem stream_ownership_suspended :
    Along Watched.step (fun watched event => (watched.step event).Owned) (Watched.start [] 2)
      [.streamCreate (fun _ => 1) (some 7), .streamStart (some 7),
        .streamSuspend (some 7) btHfpCallStatusConnect, .streamDone (some 7)] := by
  refine (stream_ownership [] nodup_nil 2 _ ?_).mpr ?_
  · refine ⟨⟨7, rfl, nofun, nofun⟩, ⟨7, rfl, by decide⟩, trivial, trivial, trivial⟩
  · exact ⟨trivial, trivial, trivial, ⟨by decide, by decide⟩, trivial⟩

def closedWhilePlaying : Watched :=
  [.streamCreate (fun _ => 1) (some 7), .streamCreate (fun _ => 2) (some 8),
    .streamStart (some 7), .streamDone (some 7)].foldl Watched.step (Watched.start [] 2)

/-- The decoder's handle is that of the closed stream, and the play state goes on
without a stream. -/
theorem stream_ownership_closed : closedWhilePlaying.links.m_audio_stream_handle = some 7 ∧
    ¬Live closedWhilePlaying.links.connection_list 7 ∧
    closedWhilePlaying.links.s_a2dp_play_state = .start ∧
    closedWhilePlaying.links.s_a2dp_stream_handle = none := by
  decide

end Hfirmware.Bluetooth.A2dp
