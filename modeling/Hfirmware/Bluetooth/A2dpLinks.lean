/-
The A2DP connections of the application: the connection instances, which all profiles
share, the count of free links, and the two stream handles with the play state.
-/

import Hfirmware.GuardedRun
import Hfirmware.Bluetooth.A2dpData

namespace Hfirmware.Bluetooth.A2dp

open List Nat GuardedRun

inductive ServiceClass where
  | audioSource | handsfreeAg | avrcpCt | hid | att
deriving DecidableEq

inductive Role where
  | initiator | responder
deriving DecidableEq

abbrev Handle := Option Nat

structure AppConnInst where
  profile_inst_handle : Handle
  connection_handle : Nat
  service_class : ServiceClass
  bd : Fin 6 → UInt8
  role : Role
deriving DecidableEq

structure Links where
  connection_list : List AppConnInst
  handle_base : Nat
  (s_a2dp_multi_link_num s_a2dp_free_link_num : UInt8)
  s_a2dp_play_state : PlayState
  (s_a2dp_stream_handle m_audio_stream_handle : Handle)

def Links.initial (connection_list : List AppConnInst) : Links :=
  { connection_list := connection_list
    handle_base := 1
    s_a2dp_multi_link_num := 1
    s_a2dp_free_link_num := 1
    s_a2dp_play_state := .idle
    s_a2dp_stream_handle := none
    m_audio_stream_handle := none }

def Links.hscA2dpStartMulti (links : Links) (num : UInt8) : Links :=
  if num > 0 then { links with s_a2dp_multi_link_num := num, s_a2dp_free_link_num := num }
  else links

def AppConnInst.isSource (bd : Fin 6 → UInt8) (inst : AppConnInst) : Bool :=
  inst.service_class = .audioSource && inst.bd = bd

/-- `App_FindConnectionInstByBD` for `CLS_AUDIO_SOURCE`; `APP_CONNECT_IGNORE_ROLE`
has the bits of both roles. -/
def Links.findByBD (links : Links) (bd : Fin 6 → UInt8) : Option AppConnInst :=
  links.connection_list.find? (AppConnInst.isSource bd)

def AppConnInst.hasHandle (handle : Handle) (inst : AppConnInst) : Bool :=
  inst.profile_inst_handle = handle

def Links.findByLowerHandle (links : Links) (handle : Handle) : Option AppConnInst :=
  links.connection_list.find? (AppConnInst.hasHandle handle)

def Links.findByUpperHandle (links : Links) (connection_handle : Nat) : Option AppConnInst :=
  links.connection_list.find? fun inst => inst.connection_handle = connection_handle

def Links.addConnectionInst (links : Links) (bd : Fin 6 → UInt8) (role : Role) : Links :=
  { links with
    connection_list := links.connection_list ++
      [{ profile_inst_handle := none
         connection_handle := links.handle_base
         service_class := .audioSource
         bd := bd
         role := role }]
    handle_base := if links.handle_base < 0xffff then links.handle_base + 1 else 1 }

def setHandle (bd : Fin 6 → UInt8) (handle : Handle) : List AppConnInst → List AppConnInst
  | [] => []
  | inst :: rest =>
    if inst.isSource bd then { inst with profile_inst_handle := handle } :: rest
    else inst :: setHandle bd handle rest

def Links.fsmConnect (links : Links) (bd : Fin 6 → UInt8) : Links :=
  match links.findByBD bd with
  | none =>
    { links.addConnectionInst bd .initiator with
      s_a2dp_free_link_num := links.s_a2dp_free_link_num - 1 }
  | some _ => links

def Links.fsmStreamCreateInd (links : Links) (remote_bd : Fin 6 → UInt8)
    (stream_handle : Handle) : Links :=
  let added : Links := match links.findByBD remote_bd with
    | none =>
      { links.addConnectionInst remote_bd .responder with
        s_a2dp_free_link_num := links.s_a2dp_free_link_num - 1
        s_a2dp_stream_handle :=
          if links.s_a2dp_play_state ≠ .start then stream_handle
          else links.s_a2dp_stream_handle }
    | some _ => links
  { added with connection_list := setHandle remote_bd stream_handle added.connection_list }

def Links.fsmStreamOpenInd (links : Links) (stream_handle : Handle) : Links :=
  match links.findByLowerHandle stream_handle with
  | none => links
  | some _ =>
    if links.s_a2dp_play_state ≠ .start then
      { links with s_a2dp_stream_handle := stream_handle, s_a2dp_play_state := .open }
    else links

def Links.streamStartByHandle (links : Links) (stream_handle : Handle) : Links :=
  if links.s_a2dp_stream_handle ≠ none ∧ stream_handle ≠ none ∧
      links.s_a2dp_stream_handle ≠ stream_handle ∧ links.s_a2dp_play_state = .start then
    -- The device that plays goes on, the other one is asked to pause.
    links
  else
    { links with
      m_audio_stream_handle :=
        if stream_handle ≠ none then stream_handle else links.m_audio_stream_handle
      s_a2dp_stream_handle := stream_handle
      s_a2dp_play_state := .start }

def Links.disableAudioStreamHandle (links : Links) : Links :=
  { links with m_audio_stream_handle := none }

def Links.enableAudioStreamHandle (links : Links) : Links :=
  { links with m_audio_stream_handle := links.s_a2dp_stream_handle }

def Links.streamSuspendByHandle (links : Links) (stream_handle : Handle) (hfpState : Nat) :
    Links :=
  if stream_handle = links.s_a2dp_stream_handle ∧ links.s_a2dp_play_state = .start then
    let paused := { links with s_a2dp_play_state := .pause }
    if hfpState ≤ btHfpCallStatusConnect then paused.disableAudioStreamHandle else paused
  else links

def Links.fsmStreamDoneInd (links : Links) (stream_handle : Handle) : Links :=
  match links.findByLowerHandle stream_handle with
  | none => links
  | some connection =>
    let closed := { links with
      s_a2dp_stream_handle :=
        if connection.profile_inst_handle = links.s_a2dp_stream_handle then none
        else links.s_a2dp_stream_handle
      s_a2dp_free_link_num := links.s_a2dp_free_link_num + 1
      connection_list := links.connection_list.eraseP (AppConnInst.hasHandle stream_handle) }
    if closed.s_a2dp_multi_link_num = closed.s_a2dp_free_link_num then
      { closed with s_a2dp_play_state := .idle, s_a2dp_stream_handle := none }
    else closed

def Links.fsmDisconnect (links : Links) (connection_handle : Nat) : Links :=
  let connection :=
    if connection_handle ≠ 0 then links.findByUpperHandle connection_handle else none
  let known := connection.any fun inst =>
    inst.profile_inst_handle ≠ none && inst.service_class = .audioSource
  if known then links
  else if links.s_a2dp_multi_link_num = links.s_a2dp_free_link_num then
    { links with s_a2dp_play_state := .idle, s_a2dp_stream_handle := none }
  else links

inductive LinkEvent where
  | connect (bd : Fin 6 → UInt8)
  | streamCreate (remote_bd : Fin 6 → UInt8) (stream_handle : Handle)
  | streamOpen (stream_handle : Handle)
  | streamStart (stream_handle : Handle)
  | streamSuspend (stream_handle : Handle) (hfpState : Nat)
  | streamDone (stream_handle : Handle)
  | disconnect (connection_handle : Nat)
  /-- The audio driver gives the output back to Bluetooth, or takes it away. -/
  | enableAudio | disableAudio

def Links.step (links : Links) : LinkEvent → Links
  | .connect bd => links.fsmConnect bd
  | .streamCreate remote_bd stream_handle => links.fsmStreamCreateInd remote_bd stream_handle
  | .streamOpen stream_handle => links.fsmStreamOpenInd stream_handle
  | .streamStart stream_handle => links.streamStartByHandle stream_handle
  | .streamSuspend stream_handle hfpState => links.streamSuspendByHandle stream_handle hfpState
  | .streamDone stream_handle => links.fsmStreamDoneInd stream_handle
  | .disconnect connection_handle => links.fsmDisconnect connection_handle
  | .enableAudio => links.enableAudioStreamHandle
  | .disableAudio => links.disableAudioStreamHandle

/-! ### The count of free links -/

def AppConnInst.isAudioSource (inst : AppConnInst) : Bool := inst.service_class = .audioSource

def Links.live (links : Links) : Nat := links.connection_list.countP AppConnInst.isAudioSource

def Links.Accounted (links : Links) : Prop :=
  links.s_a2dp_free_link_num.toNat ≤ links.s_a2dp_multi_link_num.toNat ∧
    links.s_a2dp_free_link_num.toNat + links.live = links.s_a2dp_multi_link_num.toNat

def Room (links : Links) : LinkEvent → Prop
  | .connect bd => links.findByBD bd = none → links.live < links.s_a2dp_multi_link_num.toNat
  | .streamCreate bd _ =>
    links.findByBD bd = none → links.live < links.s_a2dp_multi_link_num.toNat
  | _ => True

def StreamHandle (links : Links) : LinkEvent → Prop
  | .streamDone stream_handle =>
    ∀ inst ∈ links.connection_list, inst.profile_inst_handle = stream_handle →
      inst.service_class = .audioSource
  | _ => True

instance (links : Links) : Decidable links.Accounted := inferInstanceAs (Decidable (_ ∧ _))

instance (links : Links) (event : LinkEvent) : Decidable (Room links event) :=
  match event with
  | .connect _ => inferInstanceAs (Decidable (_ → _))
  | .streamCreate _ _ => inferInstanceAs (Decidable (_ → _))
  | .streamOpen _ | .streamStart _ | .streamSuspend _ _ | .streamDone _ | .disconnect _
  | .enableAudio | .disableAudio => isTrue trivial

instance (links : Links) (event : LinkEvent) : Decidable (StreamHandle links event) :=
  match event with
  | .streamDone _ => inferInstanceAs (Decidable (∀ _ ∈ _, _))
  | .connect _ | .streamCreate _ _ | .streamOpen _ | .streamStart _ | .streamSuspend _ _
  | .disconnect _ | .enableAudio | .disableAudio => isTrue trivial

variable {links : Links}

open AppConnInst

open Links

theorem countP_setHandle (bd : Fin 6 → UInt8) (handle : Handle) (list : List AppConnInst) :
    (setHandle bd handle list).countP isAudioSource = list.countP isAudioSource := by
  induction list with
  | nil => rfl
  | cons _ _ ih =>
    unfold setHandle
    split
    · rfl
    · rw [countP_cons, countP_cons, ih]

theorem countP_eraseP {handle : Handle} {list : List AppConnInst} {connection : AppConnInst}
    (found : list.find? (hasHandle handle) = some connection) (source : connection.isAudioSource) :
    (list.eraseP (hasHandle handle)).countP isAudioSource + 1 = list.countP isAudioSource := by
  induction list with
  | nil => cases found
  | cons inst _ ih =>
    by_cases here : inst.hasHandle handle
    · rw [find?_cons_of_pos here, Option.some_inj] at found
      rw [eraseP_cons_of_pos here, countP_cons, found, if_pos source]
    · rw [find?_cons_of_neg here] at found
      rw [eraseP_cons_of_neg here, countP_cons, countP_cons, ← ih found]
      omega

theorem toNat_sub_one {count : UInt8} (some : 0 < count.toNat) :
    (count - 1).toNat = count.toNat - 1 :=
  UInt8.toNat_sub_of_le count 1 (UInt8.le_iff_toNat_le.mpr some)

theorem toNat_add_one {count : UInt8} (room : count.toNat < 255) :
    (count + 1).toNat = count.toNat + 1 := by
  exact mod_eq_of_lt (succ_lt_succ room)

theorem accounted_add_iff {added : Links} (accounted : links.Accounted)
    (multi : added.s_a2dp_multi_link_num = links.s_a2dp_multi_link_num)
    (free : added.s_a2dp_free_link_num = links.s_a2dp_free_link_num - 1)
    (live : added.live = links.live + 1) :
    added.Accounted ↔ links.live < links.s_a2dp_multi_link_num.toNat := by
  obtain ⟨least, whole⟩ := accounted
  unfold Links.Accounted
  rw [multi, free, live]
  constructor
  · intro after
    omega
  · intro room
    rw [toNat_sub_one (by omega)]
    omega

theorem live_addConnectionInst (bd : Fin 6 → UInt8) (role : Role) :
    (links.addConnectionInst bd role).live = links.live + 1 := by
  unfold Links.live addConnectionInst
  rw [countP_append]
  rfl

section

variable (accounted : links.Accounted)
include accounted

theorem accounted_fsmConnect_iff (bd : Fin 6 → UInt8) :
    (links.fsmConnect bd).Accounted ↔ Room links (.connect bd) := by
  unfold Room fsmConnect
  cases found : links.findByBD bd with
  | none =>
    dsimp only
    rw [imp_iff_right found]
    exact accounted_add_iff accounted rfl rfl (live_addConnectionInst bd .initiator)
  | some => exact ⟨fun _ none => (nomatch found.symm.trans none), fun _ => accounted⟩

theorem accounted_fsmStreamCreateInd_iff (bd : Fin 6 → UInt8) (handle : Handle) :
    (links.fsmStreamCreateInd bd handle).Accounted ↔ Room links (.streamCreate bd handle) := by
  unfold Room fsmStreamCreateInd
  cases found : links.findByBD bd with
  | none =>
    dsimp only
    rw [imp_iff_right found]
    refine accounted_add_iff accounted rfl rfl ?_
    exact (countP_setHandle bd handle _).trans (live_addConnectionInst bd .responder)
  | some =>
    refine ⟨fun _ none => (nomatch found.symm.trans none), fun _ => ?_⟩
    refine ⟨accounted.1, ?_⟩
    unfold Links.live
    rw [countP_setHandle]
    exact accounted.2

theorem accounted_fsmStreamDoneInd (handle : Handle)
    (streams : StreamHandle links (.streamDone handle)) :
    (links.fsmStreamDoneInd handle).Accounted := by
  unfold fsmStreamDoneInd
  cases found : links.findByLowerHandle handle with
  | none => exact accounted
  | some connection =>
    obtain ⟨_, whole⟩ := accounted
    have source : connection.isAudioSource := by
      apply decide_eq_true
      apply streams connection (List.mem_of_find?_eq_some found)
      have matched := find?_some found
      exact of_decide_eq_true matched
    have taken := countP_eraseP found source
    have bounded := links.s_a2dp_multi_link_num.toNat_lt
    have count : (links.s_a2dp_free_link_num + 1).toNat = links.s_a2dp_free_link_num.toNat + 1 := by
      apply toNat_add_one
      unfold Links.live at whole
      omega
    have closed : (links.s_a2dp_free_link_num + 1).toNat ≤ links.s_a2dp_multi_link_num.toNat ∧
        (links.s_a2dp_free_link_num + 1).toNat +
          (links.connection_list.eraseP (hasHandle handle)).countP
            isAudioSource = links.s_a2dp_multi_link_num.toNat := by
      unfold Links.live at whole
      omega
    dsimp only
    split
    · exact closed
    · exact closed

end

theorem fsmDisconnect_cases (links : Links) (connection_handle : Nat) :
    links.fsmDisconnect connection_handle = links ∨
      links.s_a2dp_multi_link_num = links.s_a2dp_free_link_num ∧
        links.fsmDisconnect connection_handle =
          { links with s_a2dp_play_state := .idle, s_a2dp_stream_handle := none } := by
  unfold fsmDisconnect
  generalize (if connection_handle ≠ 0 then links.findByUpperHandle connection_handle else none) =
    connection
  dsimp only
  split
  · exact .inl rfl
  · split
    · rename_i all
      exact .inr ⟨all, rfl⟩
    · exact .inl rfl

theorem accounted_of_same {next : Links} (accounted : links.Accounted)
    (list : next.connection_list = links.connection_list)
    (free : next.s_a2dp_free_link_num = links.s_a2dp_free_link_num)
    (multi : next.s_a2dp_multi_link_num = links.s_a2dp_multi_link_num) : next.Accounted := by
  unfold Links.Accounted Links.live
  rwa [list, free, multi]

theorem accounted_step_iff (accounted : links.Accounted) (event : LinkEvent)
    (streams : StreamHandle links event) : (links.step event).Accounted ↔ Room links event := by
  have kept : ∀ {next : Links}, next.Accounted → Room links event = True →
      (next.Accounted ↔ Room links event) := fun after room => by
    rw [room]
    exact ⟨fun _ => trivial, fun _ => after⟩
  cases event with
  | connect bd => exact accounted_fsmConnect_iff accounted bd
  | streamCreate bd handle => exact accounted_fsmStreamCreateInd_iff accounted bd handle
  | streamOpen =>
    refine kept ?_ rfl
    unfold step fsmStreamOpenInd
    dsimp only
    split
    · exact accounted
    · split
      · exact accounted_of_same accounted rfl rfl rfl
      · exact accounted
  | streamStart =>
    refine kept ?_ rfl
    unfold step streamStartByHandle
    dsimp only
    split
    · exact accounted
    · exact accounted_of_same accounted rfl rfl rfl
  | streamSuspend =>
    refine kept ?_ rfl
    unfold step streamSuspendByHandle
    dsimp only
    split
    · split <;> exact accounted_of_same accounted rfl rfl rfl
    · exact accounted
  | streamDone handle => exact kept (accounted_fsmStreamDoneInd accounted handle streams) rfl
  | disconnect handle =>
    refine kept ?_ rfl
    unfold step
    dsimp only
    cases fsmDisconnect_cases links handle with
    | inl same => exact same.symm ▸ accounted
    | inr reset => exact reset.2.symm ▸ accounted_of_same accounted rfl rfl rfl
  | enableAudio | disableAudio => exact kept (accounted_of_same accounted rfl rfl rfl) rfl

theorem accounted_startMulti {others : List AppConnInst}
    (foreign : ∀ inst ∈ others, inst.service_class ≠ .audioSource) (num : UInt8) :
    ((initial others).hscA2dpStartMulti num).Accounted := by
  have none : others.countP isAudioSource = 0 := by
    rw [countP_eq_zero]
    intro inst member source
    exact foreign inst member (of_decide_eq_true source)
  unfold hscA2dpStartMulti Links.Accounted Links.live
  split
  · exact ⟨.refl, congrArg _ none⟩
  · exact ⟨.refl, congrArg _ none⟩

/-- From the start of A2DP with any number of links, the account holds after
every event exactly if no new device comes while all links are taken. -/
theorem link_accounting (others : List AppConnInst)
    (foreign : ∀ inst ∈ others, inst.service_class ≠ .audioSource) (num : UInt8)
    (events : List LinkEvent)
    (streams : Along Links.step StreamHandle ((Links.initial others).hscA2dpStartMulti num)
      events) :
    Along Links.step (fun links event => (links.step event).Accounted)
        ((Links.initial others).hscA2dpStartMulti num) events ↔
      Along Links.step Room ((Links.initial others).hscA2dpStartMulti num) events :=
  along_iff (fun _ event accounted here => accounted_step_iff accounted event here)
    (fun _ event accounted here => (accounted_step_iff accounted event here).mpr)
    (accounted_startMulti foreign num) streams

theorem link_accounting_two : Along Links.step (fun links event => (links.step event).Accounted)
    ((Links.initial []).hscA2dpStartMulti 2)
    [.connect fun _ => 1, .streamCreate (fun _ => 2) (some 7), .streamCreate (fun _ => 1) (some 8),
      .streamDone (some 7)] := by
  refine (link_accounting [] nofun 2 _ ?_).mpr ?_
  · decide
  · decide

/-- A second device on a single link: the count of free links becomes 255. -/
theorem link_accounting_second :
    (((Links.initial []).hscA2dpStartMulti 1).step
      (.streamCreate (fun _ => 1) (some 7))).Accounted ∧
    ((((Links.initial []).hscA2dpStartMulti 1).step (.streamCreate (fun _ => 1) (some 7))).step
      (.streamCreate (fun _ => 2) (some 8))).s_a2dp_free_link_num = 255 := by
  decide

end Hfirmware.Bluetooth.A2dp
