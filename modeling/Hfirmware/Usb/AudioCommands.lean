/-
The commands of USB audio: one record that all requests share, and a token for each,
which the thread takes.
-/

import Hfirmware.GuardedRun

namespace Hfirmware.Usb.Audio.Command

open List Nat Option GuardedRun

inductive Feature where
  | dac | adc
deriving DecidableEq

def Feature.id : Feature → Nat
  | .dac => 5
  | .adc => 6

inductive UaCmd where
  | none | startPly | stopPly | startRec | stopRec | setVol | setMute
deriving DecidableEq

/-- `usbaudio_cmd`. The thread does not read the driver that `pval` points to. -/
structure UsbaudioCmd where
  cmd : UaCmd
  (para1 para2 : Nat)

def cleared : UsbaudioCmd := ⟨.none, 0, 0⟩

inductive Request where
  | startPlay | stopPlay | startRec | stopRec
  | setMute (unit : Feature) (mute : UInt8)
  | setVol (unit : Feature) (chNr : UInt8) (vol : UInt16)

def Request.command : Request → UsbaudioCmd
  | .startPlay => ⟨.startPly, 0, 0⟩
  | .stopPlay => ⟨.stopPly, 0, 0⟩
  | .startRec => ⟨.startRec, 0, 0⟩
  | .stopRec => ⟨.stopRec, 0, 0⟩
  | .setMute unit mute => ⟨.setMute, unit.id, mute.toNat⟩
  | .setVol unit chNr vol => ⟨.setVol, unit.id ||| chNr.toNat <<< 8, vol.toNat⟩

inductive Effect where
  | startPlay | stopPlay | startRec | stopRec
  | mute (unit : Feature) (on : Bool)
  | volume (unit : Feature) (level : Nat)
deriving DecidableEq

def level (para2 : Nat) : Nat := (para2 &&& 0xff00) >>> 8

def Request.effect : Request → Effect
  | .startPlay => .startPlay
  | .stopPlay => .stopPlay
  | .startRec => .startRec
  | .stopRec => .stopRec
  | .setMute unit mute => .mute unit (mute.toNat = 1)
  | .setVol unit _ vol => .volume unit (level vol.toNat)

inductive Stage where
  | fetch | readCmd
  | branch (cmd : UaCmd)
  | mutePlay | muteElse | muteRecord
  | setVolume (id : Nat)
  | clear
deriving DecidableEq

/-- `g_ua_cmd`, the tokens in `g_cmd_mbox`, the thread, and what was posted and done. -/
structure System where
  record : UsbaudioCmd
  tokens : Nat
  stage : Stage
  posted : List Request
  executed : List Effect

def System.init : System := ⟨cleared, 0, .fetch, [], []⟩

def uaMailboxSize : Nat := 2

namespace System

def post (system : System) (request : Request) : System :=
  { system with
    record := request.command
    tokens := system.tokens + 1
    posted := system.posted ++ [request] }

/-- A request writes the record even if `chMBPostI` then finds the mailbox full. -/
def request (system : System) (request : Request) : System :=
  if system.tokens < uaMailboxSize then system.post request
  else { system with record := request.command }

def goto (system : System) (stage : Stage) : System := { system with stage }

def execute (system : System) (effect : Effect) : System :=
  { system with executed := system.executed ++ [effect], stage := .clear }

def thread (system : System) : System :=
  match system.stage with
  | .fetch =>
    if system.tokens = 0 then system
    else { system with tokens := system.tokens - 1, stage := .readCmd }
  | .readCmd => system.goto (.branch system.record.cmd)
  | .branch .none => system.goto .clear
  | .branch .startPly => system.execute .startPlay
  | .branch .stopPly => system.execute .stopPlay
  | .branch .startRec => system.execute .startRec
  | .branch .stopRec => system.execute .stopRec
  | .branch .setMute =>
    system.goto (if system.record.para1 = Feature.dac.id then .mutePlay else .muteElse)
  | .mutePlay => system.execute (.mute .dac (system.record.para2 = 1))
  | .muteElse =>
    system.goto (if system.record.para1 = Feature.adc.id then .muteRecord else .clear)
  | .muteRecord => system.execute (.mute .adc (system.record.para2 = 1))
  | .branch .setVol => system.goto (.setVolume (system.record.para1 &&& 0x00ff))
  | .setVolume id =>
    if id = Feature.dac.id then system.execute (.volume .dac (level system.record.para2))
    else if id = Feature.adc.id then system.execute (.volume .adc (level system.record.para2))
    else system.goto .clear
  | .clear => { system with record := cleared, stage := .fetch }

end System

inductive Action where
  | request (request : Request)
  | thread

def System.step (system : System) : Action → System
  | .request request => system.request request
  | .thread => system.thread

def System.run (system : System) (actions : List Action) : System :=
  actions.foldl System.step system

def Quiet (system : System) : Prop := system.stage = .fetch ∧ system.tokens = 0

instance decidableQuiet (system : System) : Decidable (Quiet system) :=
  inferInstanceAs (Decidable (_ ∧ _))

def Delivered (system : System) : Prop :=
  ∃ steps, Quiet (System.thread^[steps] system) ∧
    (System.thread^[steps] system).executed = system.posted.map Request.effect

def InTurn (system : System) : Action → Prop
  | .request _ => Quiet system
  | .thread => True

/-! ### What the thread is about to do -/

def effectAs (record : UsbaudioCmd) : UaCmd → Option Effect
  | .none => none
  | .startPly => some .startPlay
  | .stopPly => some .stopPlay
  | .startRec => some .startRec
  | .stopRec => some .stopRec
  | .setMute =>
    if record.para1 = Feature.dac.id then some (.mute .dac (record.para2 = 1))
    else if record.para1 = Feature.adc.id then some (.mute .adc (record.para2 = 1))
    else none
  | .setVol =>
    if record.para1 &&& 0x00ff = Feature.dac.id then some (.volume .dac (level record.para2))
    else if record.para1 &&& 0x00ff = Feature.adc.id then
      some (.volume .adc (level record.para2))
    else none

def System.due (system : System) : Option Effect :=
  match system.stage with
  | .fetch => if system.tokens = 0 then none else effectAs system.record system.record.cmd
  | .readCmd => effectAs system.record system.record.cmd
  | .branch cmd => effectAs system.record cmd
  | .mutePlay => some (.mute .dac (system.record.para2 = 1))
  | .muteElse =>
    if system.record.para1 = Feature.adc.id then some (.mute .adc (system.record.para2 = 1))
    else none
  | .muteRecord => some (.mute .adc (system.record.para2 = 1))
  | .setVolume id =>
    if id = Feature.dac.id then some (.volume .dac (level system.record.para2))
    else if id = Feature.adc.id then some (.volume .adc (level system.record.para2))
    else none
  | .clear => none

open Command.System

theorem effectAs_command (request : Request) :
    effectAs request.command request.command.cmd = some request.effect := by
  cases request with
  | setMute unit => cases unit <;> rfl
  | setVol unit chNr =>
    have id : (unit.id ||| chNr.toNat <<< 8) &&& 0x00ff = unit.id := by
      have shifted : chNr.toNat <<< 8 % 2 ^ 8 = 0 := by
        rw [shiftLeft_eq, mul_mod_left]
      rw [show 0x00ff = 2 ^ 8 - 1 from rfl, and_two_pow_sub_one_eq_mod, or_mod_two_pow,
        shifted, or_zero]
      cases unit <;> rfl
    simp only [effectAs, Request.command, id]
    cases unit <;> rfl
  | _ => rfl

variable {system : System}

theorem due_of_quiet (quiet : Quiet system) : system.due = none := by
  unfold System.due
  rw [quiet.1]
  exact if_pos quiet.2

theorem thread_of_quiet (quiet : Quiet system) : system.thread = system := by
  unfold System.thread
  rw [quiet.1]
  exact if_pos quiet.2

theorem thread_cases (system : System) : system.thread.posted = system.posted ∧
    (system.thread.executed = system.executed ∧ system.thread.due = system.due ∨
      ∃ effect, system.due = some effect ∧ system.thread = system.execute effect) := by
  obtain ⟨record, tokens, stage, _, _⟩ := system
  cases stage with
  | fetch =>
    cases tokens with
    | zero | succ => exact ⟨rfl, .inl ⟨rfl, rfl⟩⟩
  | readCmd => exact ⟨rfl, .inl ⟨rfl, rfl⟩⟩
  | branch cmd =>
    cases cmd with
    | none | setVol => exact ⟨rfl, .inl ⟨rfl, rfl⟩⟩
    | setMute =>
      refine ⟨rfl, .inl ⟨rfl, ?_⟩⟩
      by_cases dac : record.para1 = Feature.dac.id
      · simp only [System.thread, goto, System.due, effectAs, dac, if_true]
      · simp only [System.thread, goto, System.due, effectAs, dac, if_false]
    | _ => exact ⟨rfl, .inr ⟨_, rfl, rfl⟩⟩
  | mutePlay | muteRecord => exact ⟨rfl, .inr ⟨_, rfl, rfl⟩⟩
  | muteElse =>
    refine ⟨rfl, .inl ⟨rfl, ?_⟩⟩
    by_cases adc : record.para1 = Feature.adc.id
    · simp only [System.thread, goto, System.due, adc, if_true]
    · simp only [System.thread, goto, System.due, adc, if_false]
  | setVolume id =>
    by_cases dac : id = Feature.dac.id
    · cases dac
      exact ⟨rfl, .inr ⟨_, rfl, rfl⟩⟩
    by_cases adc : id = Feature.adc.id
    · cases adc
      exact ⟨rfl, .inr ⟨_, rfl, rfl⟩⟩
    simp only [System.thread, System.due, if_neg dac, if_neg adc, goto]
    exact ⟨trivial, .inl ⟨trivial, trivial⟩⟩
  | clear =>
    refine ⟨rfl, .inl ⟨rfl, ?_⟩⟩
    -- the cleared record has no effect, whatever tokens are left
    cases tokens with
    | zero => rfl
    | succ => rfl

theorem thread_account (system : System) :
    system.thread.executed ++ system.thread.due.toList = system.executed ++ system.due.toList := by
  rcases (thread_cases system).2 with ⟨executed, due⟩ | ⟨effect, due, next⟩
  · rw [executed, due]
  · rw [next, due]
    exact append_nil _

def Stage.rank : Stage → Nat
  | .fetch => 0
  | .clear => 1
  | .mutePlay | .muteRecord | .setVolume _ => 2
  | .muteElse => 3
  | .branch _ => 4
  | .readCmd => 5

def System.rank (system : System) : Nat := system.tokens * 6 + system.stage.rank

theorem rank_thread (busy : ¬Quiet system) : system.thread.rank < system.rank := by
  obtain ⟨record, tokens, stage, posted, executed⟩ := system
  cases stage with
  | fetch =>
    cases tokens with
    | zero => exact absurd ⟨rfl, rfl⟩ busy
    | succ tokens =>
      change tokens * 6 + 5 < (tokens + 1) * 6 + 0
      omega
  | branch cmd =>
    cases cmd with
    | setMute =>
      by_cases dac : record.para1 = Feature.dac.id
      · simp only [System.thread, goto, if_pos dac]
        exact Nat.add_lt_add_left (by decide : Stage.mutePlay.rank < 4) _
      · simp only [System.thread, goto, if_neg dac]
        exact Nat.add_lt_add_left (by decide : Stage.muteElse.rank < 4) _
    | setVol => exact Nat.add_lt_add_left (by decide : 2 < 4) _
    | _ => exact Nat.add_lt_add_left (by decide : 1 < 4) _
  | muteElse =>
    by_cases adc : record.para1 = Feature.adc.id
    · simp only [System.thread, goto, if_pos adc]
      exact Nat.add_lt_add_left (by decide : Stage.muteRecord.rank < 3) _
    · simp only [System.thread, goto, if_neg adc]
      exact Nat.add_lt_add_left (by decide : Stage.clear.rank < 3) _
  | setVolume id =>
    have after : (System.thread ⟨record, tokens, .setVolume id, posted, executed⟩).rank =
        tokens * 6 + 1 := by
      simp only [System.thread]
      split
      · rfl
      · split <;> rfl
    rw [after]
    exact Nat.add_lt_add_left (by decide : 1 < 2) _
  | readCmd => exact Nat.add_lt_add_left (by decide : 4 < 5) _
  | mutePlay | muteRecord => exact Nat.add_lt_add_left (by decide : 1 < 2) _
  | clear => exact Nat.add_lt_add_left (by decide : 0 < 1) _

theorem exists_quiet (system : System) : ∃ steps, Quiet (System.thread^[steps] system) := by
  induction rank : system.rank using Nat.strong_induction_on generalizing system with
  | _ rank ih =>
    subst rank
    by_cases quiet : Quiet system
    · exact ⟨0, quiet⟩
    · obtain ⟨steps, later⟩ := ih system.thread.rank (rank_thread quiet) system.thread rfl
      exact ⟨steps + 1, later⟩

theorem iterate_account (system : System) (steps : Nat) :
    (System.thread^[steps] system).executed ++ (System.thread^[steps] system).due.toList =
      system.executed ++ system.due.toList := by
  induction steps generalizing system with
  | zero => rfl
  | succ _ ih => exact (ih system.thread).trans (thread_account system)

theorem delivered_iff (system : System) :
    Delivered system ↔ system.executed ++ system.due.toList = system.posted.map Request.effect := by
  have rest : ∀ steps, Quiet (System.thread^[steps] system) →
      (System.thread^[steps] system).executed = system.executed ++ system.due.toList := by
    intro steps quiet
    have account := iterate_account system steps
    rw [due_of_quiet quiet] at account
    exact (append_nil _).symm.trans account
  constructor
  · rintro ⟨steps, quiet, executed⟩
    rwa [← rest steps quiet]
  · intro account
    obtain ⟨steps, quiet⟩ := exists_quiet system
    exact ⟨steps, quiet, (rest steps quiet).trans account⟩

structure Inv (system : System) : Prop where
  account : system.executed ++ system.due.toList = system.posted.map Request.effect
  single : system.tokens = 0 ∨ system.tokens = 1 ∧ system.stage = .fetch
  live : system.due = none → system.stage = .clear ∨ Quiet system

theorem Inv.init : Inv .init := ⟨rfl, .inl rfl, fun _ => .inr ⟨rfl, rfl⟩⟩

theorem thread_tokens (later : system.stage ≠ .fetch) : system.thread.tokens = system.tokens := by
  obtain ⟨_, _, stage, _, _⟩ := system
  cases stage with
  | fetch => exact absurd rfl later
  | branch cmd => cases cmd <;> rfl
  | setVolume =>
    simp only [System.thread]
    split
    · rfl
    · split <;> rfl
  | _ => rfl

section

variable (inv : Inv system)
include inv

theorem Inv.thread : Inv system.thread := by
  obtain ⟨posted, cases⟩ := thread_cases system
  refine ⟨?_, ?_, fun nothing => ?_⟩
  · rw [thread_account, posted]
    exact inv.account
  · left
    by_cases fetch : system.stage = .fetch
    · unfold System.thread
      rw [fetch]
      rcases inv.single with none | ⟨one, _⟩
      · rwa [if_pos none]
      · rw [if_neg (by rw [one]; exact Nat.one_ne_zero), one]
    · rw [thread_tokens fetch]
      exact inv.single.resolve_right fun one => fetch one.2
  · rcases cases with ⟨_, due⟩ | ⟨effect, _, next⟩
    · rw [due] at nothing
      right
      rcases inv.live nothing with clear | quiet
      · rw [System.thread, clear]
        refine ⟨rfl, inv.single.resolve_right fun one => ?_⟩
        rw [clear] at one
        cases one.2
      · rwa [thread_of_quiet quiet]
    · rw [next]
      exact .inl rfl

theorem Inv.request (quiet : Quiet system) (request : Request) : Inv (system.request request) := by
  obtain ⟨record, _, _, posted, executed⟩ := system
  obtain ⟨rfl, rfl⟩ := quiet
  have account := inv.account
  have due : (System.request ⟨record, 0, .fetch, posted, executed⟩ request).due =
      some request.effect := effectAs_command request
  refine ⟨?_, .inr ⟨rfl, rfl⟩, fun nothing => ?_⟩
  · rw [due]
    change executed ++ [request.effect] = (posted ++ [request]).map Request.effect
    rw [map_append, ← account]
    exact congrArg (· ++ [request.effect]) (append_nil _).symm
  · rw [due] at nothing
    cases nothing

theorem Inv.not_delivered (busy : ¬Quiet system) (request : Request) :
    ¬Delivered (system.request request) := by
  rw [delivered_iff]
  intro after
  have before := congrArg List.length inv.account
  have few : system.tokens < uaMailboxSize := by
    rcases inv.single with none | ⟨one, _⟩
    · rw [none]
      decide
    · rw [one]
      decide
  have next : system.request request = system.post request := if_pos few
  rw [next] at after
  have count := congrArg List.length after
  have posted : ((system.post request).posted.map Request.effect).length =
      (system.posted.map Request.effect).length + 1 := by
    rw [length_map, length_map]
    exact length_append
  rw [posted, ← before, length_append, length_append] at count
  change system.executed.length + _ = _ at count
  -- only one effect can come, so that none was due before
  have nothing : system.due = none := by
    have limit : (system.post request).due.toList.length ≤ 1 := length_toList_le
    cases due : system.due with
    | none => rfl
    | some effect =>
      rw [due, toList_some, length_singleton] at count
      omega
  have clear := (inv.live nothing).resolve_right busy
  have lost : (system.post request).due = none := by
    unfold System.due post
    rw [clear]
  rw [lost, nothing] at count
  omega

theorem Inv.step {action : Action} (turn : InTurn system action) : Inv (system.step action) := by
  cases action with
  | request request => exact inv.request turn request
  | thread => exact inv.thread

theorem along_of_delivered {actions : List Action}
    (every : ∀ before after, actions = before ++ after → Delivered (system.run before)) :
    Along System.step InTurn system actions := by
  induction actions generalizing system with
  | nil => trivial
  | cons action rest ih =>
    have turn : InTurn system action := by
      cases action with
      | thread => trivial
      | request request =>
        by_contra busy
        exact inv.not_delivered busy request (every [.request request] rest rfl)
    refine ⟨turn, ih (inv.step turn) fun before after split => ?_⟩
    exact every (action :: before) after (congrArg (List.cons action) split)

end

/-- Every posted command is executed once, in order and with its parameters, exactly in the
runs in which every request finds the thread at rest. -/
theorem command_delivery (actions : List Action) :
    (∀ before after, actions = before ++ after → Delivered (System.init.run before)) ↔
      Along System.step InTurn .init actions := by
  refine ⟨along_of_delivered Inv.init, fun along before after split => ?_⟩
  rw [split] at along
  have preserved : ∀ system action, Inv system → InTurn system action → Inv (system.step action) :=
    fun _ _ inv turn => inv.step turn
  rw [delivered_iff]
  exact (invariant_of_along preserved Inv.init (along_append.mp along).1).account

/-- A second request before the first is read, before its parameters are read, and before
the record is cleared. -/
theorem command_delivery_lost :
    ¬Delivered (System.init.run [.request .startPlay, .request .startRec]) ∧
      ¬Delivered (System.init.run [.request (.setMute .dac 1), .thread, .thread, .thread,
        .request (.setMute .adc 0)]) ∧
      ¬Delivered (System.init.run [.request .stopRec, .thread, .thread, .thread,
        .request (.setVol .dac 0 0x1000)]) := by
  rw [delivered_iff, delivered_iff, delivered_iff]
  decide

end Hfirmware.Usb.Audio.Command
