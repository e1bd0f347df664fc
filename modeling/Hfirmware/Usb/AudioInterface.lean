/-
The two streaming interfaces of USB audio, each with an alternate setting and a sample
rate.
-/

import Hfirmware.Usb.AudioCommands
import Hfirmware.Usb.AudioRecord

namespace Hfirmware.Usb.Audio.Interface

open Function Command GuardedRun

inductive Idx where
  | play | record
deriving DecidableEq

structure AltSetting where
  (chNum bits srNum srBitMap : Nat)

/-- `iso_info`: the settings of the two interfaces, the first of them without a stream. -/
abbrev IsoInfo := Idx → List AltSetting

def getSrdrvBySrUsb (rate : Nat) : Nat :=
  ((srTable.find? fun entry => entry.usb = rate).map SampleRate.drv).getD (2 ^ 16 - 1)

/-- The driver, the streams that run, the command that is posted, and for the present
request the commands that were executed and how often EP0 was finished. -/
structure Driver where
  ifAltSet : Idx → Nat
  fmtInfo : Idx → Format
  runs : Idx → Bool
  posted : Option UaCmd
  executed : List UaCmd
  finished : Nat

def Driver.init : Driver := ⟨fun _ => 0, fun _ => ⟨0, 0, 0, 0⟩, fun _ => false, none, [], 0⟩

def Complete (fmt : Format) : Prop := fmt.bits ≠ 0 ∧ fmt.chNum ≠ 0 ∧ fmt.sr ≠ 0

instance decidableComplete (fmt : Format) : Decidable (Complete fmt) :=
  inferInstanceAs (Decidable (_ ∧ _ ∧ _))

namespace Driver

def post (driver : Driver) (cmd : UaCmd) : Driver := { driver with posted := some cmd }

def finishEp0setup (driver : Driver) : Driver := { driver with finished := driver.finished + 1 }

def setFmt (driver : Driver) (idx : Idx) (fmt : Format) : Driver :=
  { driver with fmtInfo := update driver.fmtInfo idx fmt }

def setAlt (driver : Driver) (idx : Idx) (altset : Nat) : Driver :=
  { driver with ifAltSet := update driver.ifAltSet idx altset }

def setRuns (driver : Driver) (idx : Idx) (runs : Bool) : Driver :=
  { driver with runs := update driver.runs idx runs }

def clearFmt (driver : Driver) (idx : Idx) : Driver :=
  driver.setFmt idx { driver.fmtInfo idx with bits := 0, chNum := 0, sr := 0 }

def startPlay (driver : Driver) : Driver :=
  if driver.ifAltSet .play ≠ 0 then driver.post .startPly else driver

def stopPlay (driver : Driver) : Driver :=
  let driver := driver.clearFmt .play
  if driver.ifAltSet .play ≠ 0 then driver.post .stopPly else driver.finishEp0setup

def startRec (driver : Driver) : Driver :=
  if driver.ifAltSet .record ≠ 0 then driver.post .startRec else driver

/-- `stop_rec`, which looks at the setting of the play interface. -/
def stopRec (driver : Driver) : Driver :=
  let driver := driver.clearFmt .record
  if driver.ifAltSet .play ≠ 0 then driver.post .stopRec else driver.finishEp0setup

def startIfComplete (driver : Driver) (idx : Idx) : Driver :=
  if Complete (driver.fmtInfo idx) then
    match idx with
    | .play => driver.startPlay
    | .record => driver.startRec
  else driver

def setSr (driver : Driver) (idx : Idx) (rate : Nat) : Driver :=
  (driver.setFmt idx { driver.fmtInfo idx with sr := getSrdrvBySrUsb rate }).startIfComplete idx

def setInterface (driver : Driver) (info : IsoInfo) (idx : Idx) (altset : Nat) : Bool × Driver :=
  if altset = 0 then
    let driver := match idx with
      | .play => driver.stopPlay
      | .record => driver.stopRec
    (true, driver.setAlt idx altset)
  else
    let driver := driver.setAlt idx altset
    match (info idx)[altset]? with
    | none => (false, driver)
    | some setting =>
      let fmt := { driver.fmtInfo idx with bits := setting.bits, chNum := setting.chNum }
      let fmt := if setting.srNum = 1 then { fmt with sr := setting.srBitMap } else fmt
      (true, ((driver.setFmt idx fmt).startIfComplete idx).finishEp0setup)

/-- `UsbAudioCmdThread` executes the posted command; the drivers start. -/
def execute (driver : Driver) : Driver :=
  match driver.posted with
  | none => driver
  | some cmd =>
    let driver := { driver with posted := none, executed := driver.executed ++ [cmd] }
    match cmd with
    | .startPly => driver.setRuns .play true
    | .stopPly => (driver.setRuns .play false).finishEp0setup
    | .startRec => driver.setRuns .record true
    | .stopRec => (driver.setRuns .record false).finishEp0setup
    | _ => driver

end Driver

inductive Request (info : IsoInfo) where
  | setInterface (idx : Idx) (altset : Fin (info idx).length)
  | setCurFreq (idx : Idx) (rate : Nat)

variable {info : IsoInfo}

def Request.idx : Request info → Idx
  | .setInterface idx _ => idx
  | .setCurFreq idx _ => idx

/-- The handler of the request; the data stage of a sample rate is finished before `set_sr`. -/
def Driver.handle (driver : Driver) : Request info → Driver
  | .setInterface idx altset => (driver.setInterface info idx altset).2
  | .setCurFreq idx rate => driver.finishEp0setup.setSr idx rate

def Driver.step (driver : Driver) (request : Request info) : Driver :=
  ({ driver with executed := [], finished := 0 }.handle request).execute

def Driver.run (driver : Driver) (requests : List (Request info)) : Driver :=
  requests.foldl Driver.step driver

def stream : UaCmd → Option Idx
  | .startPly | .stopPly => some .play
  | .startRec | .stopRec => some .record
  | _ => none

/-- After a request a stream runs exactly with a setting and a complete format, only the
stream of the request was started or stopped, and EP0 was finished once. -/
structure Sound (before : Driver) (request : Request info) : Prop where
  runs : ∀ idx, (before.step request).runs idx = true ↔
    (before.step request).ifAltSet idx ≠ 0 ∧ Complete ((before.step request).fmtInfo idx)
  own : ∀ cmd ∈ (before.step request).executed, stream cmd = some request.idx
  other : ∀ idx, idx ≠ request.idx → (before.step request).runs idx = before.runs idx
  finished : (before.step request).finished = 1

def settingFmt (fmt : Format) (setting : AltSetting) : Format :=
  { fmt with
    bits := setting.bits
    chNum := setting.chNum
    sr := if setting.srNum = 1 then setting.srBitMap else fmt.sr }

/-- A running recorder is stopped while the play interface has a setting, and a running
stream gets only settings with a complete format. -/
def Allowed (driver : Driver) : Request info → Prop
  | .setInterface idx altset =>
    driver.runs idx = true →
      if altset.val = 0 then idx = .record → driver.ifAltSet .play ≠ 0
      else Complete (settingFmt (driver.fmtInfo idx) ((info idx).get altset))
  | .setCurFreq _ _ => True

/-! ### What a request does -/

def startCmd : Idx → UaCmd
  | .play => .startPly
  | .record => .startRec

def stopCmd : Idx → UaCmd
  | .play => .stopPly
  | .record => .stopRec

open Driver

theorem startIfComplete_eq (driver : Driver) (idx : Idx) : driver.startIfComplete idx =
    if Complete (driver.fmtInfo idx) ∧ driver.ifAltSet idx ≠ 0 then driver.post (startCmd idx)
    else driver := by
  unfold startIfComplete
  split
  · next complete =>
    by_cases set : driver.ifAltSet idx ≠ 0
    · rw [if_pos ⟨complete, set⟩]
      cases idx with
      | play | record => exact if_pos set
    · rw [if_neg fun both => set both.2]
      cases idx with
      | play | record => exact if_neg set
  · next complete =>
    rw [if_neg fun both => complete both.1]

theorem execute_start {driver : Driver} {idx : Idx} (posted : driver.posted = some (startCmd idx)) :
    driver.execute = { driver with
        posted := none
        executed := driver.executed ++ [startCmd idx]
        runs := update driver.runs idx true } := by
  unfold execute
  rw [posted]
  cases idx <;> rfl

theorem execute_stop {driver : Driver} {idx : Idx} (posted : driver.posted = some (stopCmd idx)) :
    driver.execute = { driver with
        posted := none
        executed := driver.executed ++ [stopCmd idx]
        runs := update driver.runs idx false
        finished := driver.finished + 1 } := by
  unfold execute
  rw [posted]
  cases idx <;> rfl

theorem execute_none {driver : Driver} (posted : driver.posted = none) :
    driver.execute = driver := by
  unfold execute
  rw [posted]

structure Outcome (before after : Driver) (idx : Idx) (altset : Nat) (fmt : Format)
    (runs : Bool) : Prop where
  ifAltSet : after.ifAltSet = update before.ifAltSet idx altset
  fmtInfo : after.fmtInfo = update before.fmtInfo idx fmt
  runs : after.runs = update before.runs idx runs
  posted : after.posted = none
  own : ∀ cmd ∈ after.executed, stream cmd = some idx
  finished : after.finished = 1

theorem outcome_start {before driver : Driver} {idx : Idx} {altset : Nat} {fmt : Format}
    (ifAltSet : driver.ifAltSet = update before.ifAltSet idx altset)
    (fmtInfo : driver.fmtInfo = update before.fmtInfo idx fmt)
    (runs : driver.runs = before.runs) (posted : driver.posted = none)
    (executed : driver.executed = []) (finished : driver.finished = 1) :
    Outcome before (driver.startIfComplete idx).execute idx altset fmt
      (if Complete fmt ∧ altset ≠ 0 then true else before.runs idx) := by
  have alt : driver.ifAltSet idx = altset := by rw [ifAltSet, update_self]
  have new : driver.fmtInfo idx = fmt := by rw [fmtInfo, update_self]
  rw [startIfComplete_eq, alt, new]
  by_cases starts : Complete fmt ∧ altset ≠ 0
  · have started : update driver.runs idx true = update before.runs idx true := by
      rw [runs]
    rw [if_pos starts, if_pos starts, execute_start rfl]
    refine ⟨ifAltSet, fmtInfo, started, rfl, ?_, finished⟩
    intro cmd member
    change cmd ∈ driver.executed ++ [startCmd idx] at member
    rw [executed] at member
    cases List.mem_singleton.mp member
    cases idx <;> rfl
  · rw [if_neg starts, if_neg starts, execute_none posted]
    refine ⟨ifAltSet, fmtInfo, ?_, posted, ?_, finished⟩
    · rw [runs, update_eq_self]
    · rw [executed]
      exact nofun

theorem outcome_stop {before driver : Driver} {idx : Idx} {fmt : Format}
    (ifAltSet : driver.ifAltSet = before.ifAltSet)
    (fmtInfo : driver.fmtInfo = update before.fmtInfo idx fmt)
    (runs : driver.runs = before.runs) (posted : driver.posted = none)
    (executed : driver.executed = []) (finished : driver.finished = 0) :
    Outcome before ((if driver.ifAltSet .play ≠ 0 then driver.post (stopCmd idx)
        else driver.finishEp0setup).setAlt idx 0).execute idx 0 fmt
      (if before.ifAltSet .play ≠ 0 then false else before.runs idx) := by
  have zero : update driver.ifAltSet idx 0 = update before.ifAltSet idx 0 := by
    rw [ifAltSet]
  rw [ifAltSet]
  by_cases set : before.ifAltSet .play ≠ 0
  · have stopped : update driver.runs idx false = update before.runs idx false := by rw [runs]
    rw [if_pos set, if_pos set, execute_stop rfl]
    refine ⟨zero, fmtInfo, stopped, rfl, ?_, congrArg Nat.succ finished⟩
    intro cmd member
    change cmd ∈ driver.executed ++ [stopCmd idx] at member
    rw [executed] at member
    cases List.mem_singleton.mp member
    cases idx <;> rfl
  · have idle : (driver.finishEp0setup.setAlt idx 0).posted = none := posted
    rw [if_neg set, if_neg set, execute_none idle]
    refine ⟨zero, fmtInfo, ?_, posted, ?_, congrArg Nat.succ finished⟩
    · refine runs.trans ?_
      rw [update_eq_self]
    · intro cmd member
      change cmd ∈ driver.executed at member
      rw [executed] at member
      cases member

def nextAlt (driver : Driver) : Request info → Nat
  | .setInterface _ altset => altset
  | .setCurFreq idx _ => driver.ifAltSet idx

def nextFmt (driver : Driver) : Request info → Format
  | .setInterface idx altset =>
    if altset.val = 0 then { driver.fmtInfo idx with bits := 0, chNum := 0, sr := 0 }
    else settingFmt (driver.fmtInfo idx) ((info idx).get altset)
  | .setCurFreq idx rate => { driver.fmtInfo idx with sr := getSrdrvBySrUsb rate }

def nextRuns (driver : Driver) (request : Request info) : Bool :=
  match request with
  | .setInterface idx altset =>
    if altset.val = 0 then if driver.ifAltSet .play ≠ 0 then false else driver.runs idx
    else if Complete (nextFmt driver request) ∧ nextAlt driver request ≠ 0 then true
    else driver.runs idx
  | .setCurFreq idx _ =>
    if Complete (nextFmt driver request) ∧ nextAlt driver request ≠ 0 then true
    else driver.runs idx

theorem finish_startIfComplete (driver : Driver) (idx : Idx) :
    (driver.startIfComplete idx).finishEp0setup = driver.finishEp0setup.startIfComplete idx := by
  rw [startIfComplete_eq, startIfComplete_eq]
  change _ = if Complete (driver.fmtInfo idx) ∧ driver.ifAltSet idx ≠ 0 then _ else _
  split <;> rfl

theorem setInterface_zero (driver : Driver) (idx : Idx) : (driver.setInterface info idx 0).2 =
    (if (driver.clearFmt idx).ifAltSet .play ≠ 0 then (driver.clearFmt idx).post (stopCmd idx)
      else (driver.clearFmt idx).finishEp0setup).setAlt idx 0 := by
  cases idx <;> rfl

theorem setInterface_set (driver : Driver) (idx : Idx) {altset : Fin (info idx).length}
    (set : altset.val ≠ 0) :
    (driver.setInterface info idx altset).2 = ((driver.setAlt idx altset).finishEp0setup.setFmt idx
        (settingFmt (driver.fmtInfo idx) ((info idx).get altset))).startIfComplete idx := by
  have setting : (info idx)[altset.val]? = some ((info idx).get altset) :=
    List.getElem?_eq_getElem altset.isLt
  unfold Driver.setInterface
  rw [if_neg set]
  rw [setting]
  dsimp only
  rw [finish_startIfComplete]
  refine congrArg (startIfComplete · idx) ?_
  unfold settingFmt
  split <;> rfl

section

variable {idx : Idx} {altset : Fin (info idx).length}

section

variable (driver : Driver)

theorem nextFmt_set (set : altset.val ≠ 0) : nextFmt driver (.setInterface idx altset) =
      settingFmt (driver.fmtInfo idx) ((info idx).get altset) := if_neg set

theorem nextRuns_set (set : altset.val ≠ 0) : nextRuns driver (.setInterface idx altset) =
      if Complete (settingFmt (driver.fmtInfo idx) ((info idx).get altset)) ∧ altset.val ≠ 0
      then true else driver.runs idx := by
  unfold nextRuns
  dsimp only
  rw [if_neg set, nextFmt_set driver set]
  rfl

theorem nextRuns_zero (zero : altset.val = 0) : nextRuns driver (.setInterface idx altset) =
      if driver.ifAltSet .play ≠ 0 then false else driver.runs idx := if_pos zero

end

end

theorem step_outcome {driver : Driver} (posted : driver.posted = none) (request : Request info) :
    Outcome driver (driver.step request) request.idx (nextAlt driver request)
      (nextFmt driver request) (nextRuns driver request) := by
  cases request with
  | setCurFreq =>
    exact outcome_start (update_eq_self _ _).symm rfl rfl posted rfl rfl
  | setInterface _ altset =>
    unfold Driver.step handle
    dsimp only
    by_cases zero : altset.val = 0
    · rw [nextRuns_zero driver zero, zero, setInterface_zero]
      unfold nextAlt nextFmt
      dsimp only
      rw [if_pos zero, zero]
      exact outcome_stop rfl rfl rfl posted rfl rfl
    · rw [nextRuns_set driver zero, nextFmt_set driver zero, setInterface_set _ _ zero]
      apply outcome_start
      · rfl
      · rfl
      · rfl
      · exact posted
      · rfl
      · rfl

structure Inv (driver : Driver) : Prop where
  posted : driver.posted = none
  runs : ∀ idx, driver.runs idx = true ↔ driver.ifAltSet idx ≠ 0 ∧ Complete (driver.fmtInfo idx)

theorem Inv.init : Inv .init := ⟨rfl, fun _ => ⟨nofun, fun both => absurd rfl both.1⟩⟩

section

variable {driver : Driver} {request : Request info}

def Settles (driver : Driver) (request : Request info) : Prop :=
  nextRuns driver request = true ↔ nextAlt driver request ≠ 0 ∧ Complete (nextFmt driver request)

theorem Inv.runs_step (inv : Inv driver) : (∀ idx, (driver.step request).runs idx ↔
      (driver.step request).ifAltSet idx ≠ 0 ∧ Complete ((driver.step request).fmtInfo idx)) ↔
    Settles driver request := by
  obtain ⟨ifAltSet, fmtInfo, runs, -, -, -⟩ := step_outcome inv.posted request
  rw [ifAltSet, fmtInfo, runs]
  constructor
  · intro every
    have own := every request.idx
    rwa [update_self, update_self, update_self] at own
  · intro settles idx
    by_cases own : idx = request.idx
    · rwa [own, update_self, update_self, update_self]
    · rw [update_of_ne own, update_of_ne own, update_of_ne own]
      exact inv.runs idx

theorem Inv.sound_iff (inv : Inv driver) : Sound driver request ↔ Settles driver request := by
  have outcome := step_outcome inv.posted request
  refine ⟨fun sound => inv.runs_step.mp sound.runs, fun settles => ⟨inv.runs_step.mpr settles,
    outcome.own, fun idx other => ?_, outcome.finished⟩⟩
  rw [outcome.runs, update_of_ne other]

theorem Inv.step (inv : Inv driver) (settles : Settles driver request) :
    Inv (driver.step request) :=
  ⟨(step_outcome inv.posted request).posted, inv.runs_step.mpr settles⟩

theorem getSrdrvBySrUsb_ne_zero (rate : Nat) : getSrdrvBySrUsb rate ≠ 0 := by
  unfold getSrdrvBySrUsb
  cases found : srTable.find? fun entry => entry.usb = rate with
  | none => exact nofun
  | some entry =>
    have positive : ∀ entry ∈ srTable, entry.drv ≠ 0 := by decide
    exact positive entry (List.mem_of_find?_eq_some found)

theorem settles_start_iff (complete set : Prop) [Decidable complete] [Decidable set] (runs : Bool) :
    ((if complete ∧ set then true else runs) ↔ set ∧ complete) ↔ (runs → complete ∧ set) := by
  split
  · next both =>
    exact iff_of_true ⟨fun _ => both.symm, fun _ => rfl⟩ fun _ => both
  · next both =>
    exact ⟨fun settles running => (settles.mp running).symm,
      fun never => ⟨fun running => absurd (never running) both,
        fun start => absurd start.symm both⟩⟩

theorem Inv.allowed_iff (inv : Inv driver) : Allowed driver request ↔ Settles driver request := by
  cases request with
  | setCurFreq idx rate =>
    refine iff_of_true trivial ((settles_start_iff _ _ _).mpr fun running => ?_)
    -- a stream that runs has bits and channels, and every rate has a code
    obtain ⟨set, bits, chNum, _⟩ := (inv.runs idx).mp running
    exact ⟨⟨bits, chNum, getSrdrvBySrUsb_ne_zero rate⟩, set⟩
  | setInterface idx altset =>
    unfold Allowed Settles
    dsimp only
    split
    · next zero =>
      rw [nextRuns_zero driver zero]
      have never : ¬(nextAlt driver (.setInterface idx altset) ≠ 0 ∧
          Complete (nextFmt driver (.setInterface idx altset))) := fun both => both.1 zero
      rw [iff_false_right never]
      split
      · next set =>
        exact iff_of_true (fun _ _ => set) nofun
      · next set =>
        cases idx with
        | play =>
          have rest : ¬driver.runs .play := fun running =>
            set ((inv.runs .play).mp running).1
          exact iff_of_true (fun running => absurd running rest) rest
        | record =>
          exact ⟨fun kept running => set (kept running rfl),
            fun rest running => absurd running rest⟩
    · next zero =>
      rw [nextRuns_set driver zero, nextFmt_set driver zero]
      change _ ↔ ((if _ then _ else _) = true ↔ altset.val ≠ 0 ∧ _)
      rw [settles_start_iff]
      exact forall_congr' fun _ => ⟨fun complete => ⟨complete, zero⟩, fun both => both.1⟩

end

theorem along_of_sound {driver : Driver} {requests : List (Request info)} (inv : Inv driver)
    (every : ∀ before request after, requests = before ++ request :: after →
      Sound (driver.run before) request) :
    Along Driver.step Allowed driver requests := by
  induction requests generalizing driver with
  | nil => trivial
  | cons request rest ih =>
    have settles := inv.sound_iff.mp (every [] request rest rfl)
    refine ⟨inv.allowed_iff.mpr settles, ih (inv.step settles) fun before later after split => ?_⟩
    exact every (request :: before) later after (congrArg (List.cons request) split)

/-- Both streams follow their interfaces after every request exactly in the runs whose
requests are all allowed. -/
theorem interface_state (requests : List (Request info)) :
    (∀ before request after, requests = before ++ request :: after →
        Sound (Driver.init.run before) request) ↔
      Along Driver.step Allowed .init requests := by
  refine ⟨along_of_sound Inv.init, fun along before request after split => ?_⟩
  rw [split] at along
  obtain ⟨earlier, allowed, -⟩ := along_append.mp along
  have preserved : ∀ (driver : Driver) (request : Request info), Inv driver →
      Allowed driver request → Inv (driver.step request) :=
    fun _ _ inv allowed => inv.step (inv.allowed_iff.mp allowed)
  have inv := invariant_of_along preserved Inv.init earlier
  exact inv.sound_iff.mpr (inv.allowed_iff.mp allowed)

def ifInfo : IsoInfo
  | .play => [⟨0, 0, 0, 0⟩, ⟨2, 16, 4, 0x0400 ||| 0x0020 ||| 0x0004 ||| 0x0001⟩]
  | .record => [⟨0, 0, 0, 0⟩, ⟨2, 16, 3, 0x0001 ||| 0x0004 ||| 0x0100⟩]

/-- The recorder is started while the play interface has no setting, and the host closes the
record interface: the recorder runs on. -/
theorem interface_state_broken :
    ¬Sound (Driver.init.run ([.setInterface .record ⟨1, by decide⟩, .setCurFreq .record 16000] :
        List (Request ifInfo)))
      (.setInterface .record ⟨0, by decide⟩ : Request ifInfo) := by
  intro sound
  exact absurd ((sound.runs .record).mp rfl).1 (by decide)

end Hfirmware.Usb.Audio.Interface
