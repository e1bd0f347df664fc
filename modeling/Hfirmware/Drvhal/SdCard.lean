/-
The scan for SD cards. A card that is seen often enough is searched for its timing and
then announced.
-/

import Hfirmware.Drvhal.SdTiming
import Hfirmware.LoggedRun

namespace Hfirmware.Drvhal

open List Nat LoggedRun ResumedSearch

/-- What a scan does; `resetTiming` is the assignment to `g_stSdTiming`, and `failed` the end
of a search without a connection. -/
inductive SdAction where
  | resetTiming
  | tried (timing : SdDevClk)
  | failed
  | memdevIn (fast : Bool)
  | memdevOut | sdcDisconnect
deriving DecidableEq

/-- The static variables; `g_u8FirstPos` has no value at first. -/
structure SdScan where
  g_stSdTiming : SdDevClk
  (g_u8SdScanCnt g_cnt : Nat)
  g_u8FirstPos : Option Bool

variable {u8SdDetLvl : Nat} {scan : SdScan}

def SdScan.init : SdScan :=
  { g_stSdTiming := .reset
    g_u8SdScanCnt := 0
    g_cnt := 0
    g_u8FirstPos := none }

structure SdSample where
  locked : Bool
  pad : Nat
  isMount : Bool
  sdcConnect : SdDevClk → Bool

def sdDetectChk (u8SdDetLvl : Nat) (sample : SdSample) : Option Bool :=
  if sample.locked then none else some (u8SdDetLvl == sample.pad)

def restart (scan : SdScan) : SdScan × List SdAction :=
  if 1 < scan.g_stSdTiming.mclk_phase then
    ({ scan with
        g_stSdTiming := .reset
        g_u8SdScanCnt := (scan.g_u8SdScanCnt + 1) % 2 ^ 8 }, [.resetTiming])
  else (scan, [])

def cardPresent (scan : SdScan) (sample : SdSample) : SdScan × List SdAction :=
  let counted := { scan with g_cnt := (scan.g_cnt + 1) % 2 ^ 32 }
  if counted.g_cnt < 10 then (counted, [])
  else if sample.isMount then (counted, [])
  else
    let training := hsSdTimTaining sample.sdcConnect counted.g_stSdTiming
    ({ counted with g_stSdTiming := training.position }, training.tried.map .tried ++
        [if training.found then .memdevIn (scan.g_u8FirstPos == some false) else .failed])

/-- The assignment of `0xff` to the two counters makes them -1. -/
def cardAbsent (scan : SdScan) (sample : SdSample) : SdScan × List SdAction :=
  let cleared := { scan with g_cnt := 0 }
  if sample.isMount then
    ({ cleared with
        g_stSdTiming := ⟨0, (0xff : BitVec 8).toInt, (0xff : BitVec 8).toInt⟩
        g_u8SdScanCnt := 0 }, [.memdevOut, .sdcDisconnect, .resetTiming])
  else (cleared, [])

def hsSdScanCard (u8SdDetLvl : Nat) (scan : SdScan) (sample : SdSample) : SdScan × List SdAction :=
  let (started, first) := restart scan
  if 3 ≤ started.g_u8SdScanCnt then (started, first)
  else
    match sdDetectChk u8SdDetLvl sample with
    | none => (started, first)
    | some detect =>
      let noted := { started with
        g_u8FirstPos := some (started.g_u8FirstPos.getD detect) }
      let (after, actions) :=
        if detect then cardPresent noted sample else cardAbsent noted sample
      (after, first ++ actions)

def sdRun (u8SdDetLvl : Nat) (scan : SdScan) (samples : List SdSample) : SdScan × List SdAction :=
  LoggedRun.run (hsSdScanCard u8SdDetLvl) scan samples

def noteTried (sofar : List SdDevClk) : SdAction → List SdDevClk
  | .resetTiming => []
  | .tried timing => sofar ++ [timing]
  | _ => sofar

def triedSinceReset (log : List SdAction) : List SdDevClk := log.foldl noteTried []

def look (u8SdDetLvl : Nat) (seen : Nat × Nat) (sample : SdSample) : Nat × Nat :=
  match sdDetectChk u8SdDetLvl sample with
  | none => seen
  | some false => (0, seen.2)
  | some true => (seen.1 + 1, if 10 ≤ seen.1 + 1 then seen.2 + 1 else seen.2)

def looks (u8SdDetLvl : Nat) (samples : List SdSample) : Nat × Nat :=
  samples.foldl (look u8SdDetLvl) (0, 0)

def NoneConnects (samples : List SdSample) : Prop :=
  ∀ sample ∈ samples, sample.isMount = false ∧ ∀ timing, sample.sdcConnect timing = false

def scanAt (u8SdDetLvl : Nat) (scan : SdScan) (coming : Nat → SdSample) (n : Nat) : SdScan :=
  (sdRun u8SdDetLvl scan ((List.range n).map coming)).1

def Announces (actions : List SdAction) : Prop := ∃ fast, .memdevIn fast ∈ actions

def AnnouncedAt (u8SdDetLvl : Nat) (scan : SdScan) (coming : Nat → SdSample) (n : Nat) : Prop :=
  Announces (hsSdScanCard u8SdDetLvl (scanAt u8SdDetLvl scan coming n) (coming n)).2

/-- A card that stays inserted and connects with one of the timings. It can be mounted only
after it was announced. -/
structure GoodCard (u8SdDetLvl : Nat) (scan : SdScan) (coming : Nat → SdSample) : Prop where
  stays : ∀ n, sdDetectChk u8SdDetLvl (coming n) ≠ some false
  seen : ∀ n, ∃ m, n ≤ m ∧ sdDetectChk u8SdDetLvl (coming m) = some true
  connects : ∃ timing : SdDevClk, timing.InGrid ∧ ∀ n, (coming n).sdcConnect timing = true
  mounted : ∀ n, (coming n).isMount = true → ∃ m, m < n ∧ AnnouncedAt u8SdDetLvl scan coming m

structure Searched (timing : SdDevClk) (log : List SdAction) : Prop where
  resumable : timing.Resumable
  whole : triedSinceReset log ++ timing.ahead = grid

theorem searched_reset (log : List SdAction) : Searched .reset (log ++ [.resetTiming]) := by
  constructor
  · exact fun _ => (by decide : (-1 : Int) < 8)
  · rw [triedSinceReset, foldl_append]
    exact ahead_reset

theorem triedSinceReset_append_tried (log : List SdAction) (tried : List SdDevClk) :
    triedSinceReset (log ++ tried.map .tried) = triedSinceReset log ++ tried := by
  induction tried generalizing log with
  | nil => rw [map_nil, append_nil, append_nil]
  | cons timing rest ih =>
    rw [map_cons, append_cons, ih, triedSinceReset, foldl_append]
    exact append_assoc _ [timing] rest

theorem triedSinceReset_training (log : List SdAction) (tried : List SdDevClk) (found fast : Bool) :
    triedSinceReset (log ++ (tried.map .tried ++ [if found then .memdevIn fast else .failed])) =
      triedSinceReset log ++ tried := by
  rw [← triedSinceReset_append_tried, ← append_assoc, triedSinceReset, foldl_append]
  cases found <;> rfl

theorem restart_searched {scan : SdScan} {log : List SdAction}
    (searched : Searched scan.g_stSdTiming log) :
    Searched (restart scan).1.g_stSdTiming (log ++ (restart scan).2) := by
  unfold restart
  split
  · exact searched_reset log
  · rwa [append_nil]

theorem cardPresent_searched {scan : SdScan} {log : List SdAction} {sample : SdSample}
    (searched : Searched scan.g_stSdTiming log) :
    let after := cardPresent scan sample
    Searched after.1.g_stSdTiming (log ++ after.2) ∧ (.failed ∈ after.2 →
        triedSinceReset (log ++ after.2) = grid) := by
  unfold cardPresent
  dsimp only
  split
  · rw [append_nil]
    exact ⟨searched, nofun⟩
  · cases sample.isMount with
    | true =>
      rw [if_pos rfl, append_nil]
      exact ⟨searched, nofun⟩
    | false =>
      rw [if_neg nofun]
      rw [triedSinceReset_training]
      obtain ⟨resumable, tried⟩ :=
        hsSdTimTaining_resumes sample.sdcConnect searched.resumable
      constructor
      · refine ⟨resumable, ?_⟩
        rw [triedSinceReset_training, append_assoc, ← tried]
        exact searched.whole
      · intro failed
        cases outcome : (hsSdTimTaining sample.sdcConnect scan.g_stSdTiming).found with
        | true =>
          rw [outcome, mem_append] at failed
          rcases failed with listed | last
          · obtain ⟨_, _, impossible⟩ := mem_map.mp listed
            cases impossible
          · cases mem_singleton.mp last
        | false =>
          rw [hsSdTimTaining_eq] at outcome ⊢
          rw [search_missed outcome]
          exact searched.whole

theorem cardAbsent_searched {scan : SdScan} {log : List SdAction} {sample : SdSample}
    (searched : Searched scan.g_stSdTiming log) :
    let after := cardAbsent scan sample
    Searched after.1.g_stSdTiming (log ++ after.2) ∧ .failed ∉ after.2 := by
  unfold cardAbsent
  cases sample.isMount with
  | true =>
    have reset := searched_reset (log ++ [.memdevOut, .sdcDisconnect])
    rw [append_assoc] at reset
    exact ⟨reset, (by decide : .failed ∉ [.memdevOut, .sdcDisconnect, SdAction.resetTiming])⟩
  | false =>
    change Searched scan.g_stSdTiming (log ++ []) ∧ .failed ∉ ([] : List SdAction)
    rw [append_nil]
    exact ⟨searched, not_mem_nil⟩

theorem hsSdScanCard_searched {u8SdDetLvl : Nat} {scan : SdScan} {log : List SdAction}
    {sample : SdSample} (searched : Searched scan.g_stSdTiming log) :
    let last := hsSdScanCard u8SdDetLvl scan sample
    Searched last.1.g_stSdTiming (log ++ last.2) ∧ (.failed ∈ last.2 →
        triedSinceReset (log ++ last.2) = grid) := by
  have started := restart_searched searched
  have quiet : .failed ∉ (restart scan).2 := by
    unfold restart
    split
    · exact fun member => nomatch mem_singleton.mp member
    · exact not_mem_nil
  unfold hsSdScanCard
  dsimp only
  split
  · exact ⟨started, fun failed => absurd failed quiet⟩
  · cases sdDetectChk u8SdDetLvl sample with
    | none => exact ⟨started, fun failed => absurd failed quiet⟩
    | some detect =>
      rw [← append_assoc]
      cases detect with
      | true =>
        obtain ⟨after, covered⟩ := @cardPresent_searched { (restart scan).1 with
          g_u8FirstPos := some ((restart scan).1.g_u8FirstPos.getD true) } _ sample started
        exact ⟨after, fun failed => covered ((mem_append.mp failed).resolve_left quiet)⟩
      | false =>
        obtain ⟨after, silent⟩ := @cardAbsent_searched { (restart scan).1 with
          g_u8FirstPos := some ((restart scan).1.g_u8FirstPos.getD false) } _ sample started
        exact ⟨after, fun failed =>
          absurd ((mem_append.mp failed).resolve_left quiet) silent⟩

theorem sdRun_searched (u8SdDetLvl : Nat) (samples : List SdSample) :
    Searched (sdRun u8SdDetLvl .init samples).1.g_stSdTiming
      (sdRun u8SdDetLvl .init samples).2 := by
  apply run_invariant fun _ (scan : SdScan) log => Searched scan.g_stSdTiming log
  · exact ⟨(searched_reset []).resumable, ahead_reset⟩
  · exact fun _ _ _ _ searched => (hsSdScanCard_searched searched).1

/-! ### Failures are counted -/

/-- The scan has counted or is about to count `failures` failed searches; the next one starts
from the reset state. -/
def Waiting (failures : Nat) (scan : SdScan) : Prop :=
  scan.g_stSdTiming = .reset ∧ scan.g_u8SdScanCnt = failures ∨
    1 < scan.g_stSdTiming.mclk_phase ∧ scan.g_u8SdScanCnt + 1 = failures

def SdScan.ready (scan : SdScan) (failures : Nat) : SdScan :=
  { scan with
    g_stSdTiming := .reset
    g_u8SdScanCnt := failures }

def SdScan.noted (scan : SdScan) (detect : Bool) : SdScan :=
  { scan with g_u8FirstPos := some (scan.g_u8FirstPos.getD detect) }

theorem SdScan.ready_waiting (scan : SdScan) (failures : Nat) :
    Waiting failures (scan.ready failures) := .inl ⟨rfl, rfl⟩

section

variable {failures : Nat} {sample : SdSample}

theorem Waiting.restart (waiting : Waiting failures scan) (small : failures < 2 ^ 8) :
    ∃ first, restart scan = (scan.ready failures, first) ∧ ¬ Announces first := by
  unfold Drvhal.restart SdScan.ready
  rcases waiting with ⟨timing, count⟩ | ⟨past, count⟩
  · rw [timing, if_neg (by decide)]
    refine ⟨[], ?_, fun ⟨_, member⟩ => nomatch member⟩
    rw [← timing, ← count]
  · rw [if_pos past, count, mod_eq_of_lt small]
    exact ⟨_, rfl, fun ⟨_, member⟩ => nomatch mem_singleton.mp member⟩

theorem Waiting.gaveUp (waiting : Waiting 3 scan) :
    Waiting 3 (hsSdScanCard u8SdDetLvl scan sample).1 ∧
      ¬ Announces (hsSdScanCard u8SdDetLvl scan sample).2 := by
  obtain ⟨_, started, quiet⟩ := waiting.restart (by decide)
  unfold hsSdScanCard
  rw [started]
  exact ⟨scan.ready_waiting 3, quiet⟩

theorem Waiting.scanned (waiting : Waiting failures scan) (few : failures < 3) :
    ∃ first, ¬ Announces first ∧ hsSdScanCard u8SdDetLvl scan sample =
      match sdDetectChk u8SdDetLvl sample with
      | none => (scan.ready failures, first)
      | some present =>
        let (after, actions) :=
          if present then cardPresent ((scan.ready failures).noted present) sample
          else cardAbsent ((scan.ready failures).noted present) sample
        (after, first ++ actions) := by
  obtain ⟨first, started, quiet⟩ := waiting.restart (by omega)
  refine ⟨first, quiet, ?_⟩
  unfold hsSdScanCard
  rw [started]
  exact if_neg (not_le.mpr few)

theorem not_announces_append {first second : List SdAction} (one : ¬ Announces first)
    (two : ¬ Announces second) : ¬ Announces (first ++ second) := by
  rintro ⟨fast, member⟩
  rcases mem_append.mp member with early | late
  · exact one ⟨fast, early⟩
  · exact two ⟨fast, late⟩

theorem not_announces_nil : ¬ Announces [] := fun ⟨_, member⟩ => nomatch member

theorem Waiting.absent (waiting : Waiting failures scan) (few : failures < 3)
    (unmounted : sample.isMount = false) (detect : sdDetectChk u8SdDetLvl sample = some false) :
    Waiting failures (hsSdScanCard u8SdDetLvl scan sample).1 ∧
      (hsSdScanCard u8SdDetLvl scan sample).1.g_cnt = 0 := by
  obtain ⟨_, -, outcome⟩ := waiting.scanned few
  rw [outcome, detect]
  unfold cardAbsent
  rw [unmounted]
  exact ⟨.inl ⟨rfl, rfl⟩, rfl⟩

theorem Waiting.counted (waiting : Waiting failures scan) (few : failures < 3)
    (detect : sdDetectChk u8SdDetLvl sample = some true) (below : scan.g_cnt + 1 < 10) :
    let after := hsSdScanCard u8SdDetLvl scan sample
    Waiting failures after.1 ∧ after.1.g_cnt = scan.g_cnt + 1 ∧ ¬ Announces after.2 := by
  obtain ⟨_, quiet, outcome⟩ := waiting.scanned few
  have small : (scan.g_cnt + 1) % 2 ^ 32 = scan.g_cnt + 1 := mod_eq_of_lt (by omega)
  have present : cardPresent ((scan.ready failures).noted true) sample =
      ({ (scan.ready failures).noted true with g_cnt := (scan.g_cnt + 1) % 2 ^ 32 }, []) :=
    if_pos (small.symm ▸ below)
  rw [outcome, detect]
  dsimp only
  rw [if_pos rfl, present, small]
  exact ⟨.inl ⟨rfl, rfl⟩, rfl, not_announces_append quiet not_announces_nil⟩

section

variable (waiting : Waiting failures scan) (few : failures < 3)
  (detect : sdDetectChk u8SdDetLvl sample = some true) (unmounted : sample.isMount = false)
  (enough : 10 ≤ scan.g_cnt + 1) (small : scan.g_cnt + 1 < 2 ^ 32)
include waiting few detect unmounted enough small

theorem Waiting.searches :
    let after := hsSdTimTaining sample.sdcConnect .reset
    ∃ first fast, hsSdScanCard u8SdDetLvl scan sample = ({ (scan.ready failures).noted true with
          g_cnt := scan.g_cnt + 1
          g_stSdTiming := after.position },
        first ++ (after.tried.map .tried ++ [if after.found then .memdevIn fast
            else .failed])) := by
  obtain ⟨first, -, outcome⟩ := waiting.scanned few
  refine ⟨first, ((scan.ready failures).noted true).g_u8FirstPos == some false, ?_⟩
  rw [outcome, detect]
  dsimp only
  rw [if_pos rfl]
  unfold cardPresent
  have wrapped : (((scan.ready failures).noted true).g_cnt + 1) % 2 ^ 32 = scan.g_cnt + 1 :=
    mod_eq_of_lt small
  rw [wrapped, if_neg (not_lt.mpr enough), unmounted]
  rfl

theorem Waiting.fails (refused : ∀ timing, sample.sdcConnect timing = false) :
    Waiting (failures + 1) (hsSdScanCard u8SdDetLvl scan sample).1 ∧
      (hsSdScanCard u8SdDetLvl scan sample).1.g_cnt = scan.g_cnt + 1 := by
  obtain ⟨_, _, outcome⟩ := waiting.searches few detect unmounted enough small
  rw [outcome, hsSdTimTaining_eq, search_refused refused]
  exact ⟨.inr ⟨final_over .reset, rfl⟩, rfl⟩

theorem Waiting.finds {timing : SdDevClk} (inGrid : timing.InGrid)
    (answers : sample.sdcConnect timing) :
    Announces (hsSdScanCard u8SdDetLvl scan sample).2 := by
  obtain ⟨_, fast, outcome⟩ := waiting.searches few detect unmounted enough small
  rw [outcome, hsSdTimTaining_eq, ahead_reset, found_of_mem ((mem_grid timing).mpr inGrid) answers]
  exact ⟨fast, mem_append_right _ (mem_append_right _ (.head _))⟩

end

end

def SdScan.Fresh (scan : SdScan) : Prop :=
  scan.g_stSdTiming = .reset ∧ scan.g_u8SdScanCnt = 0 ∧ scan.g_cnt = 0

/-- The scan after samples of which `seen` tells how often cards were seen. -/
structure Looked (seen : Nat × Nat) (scan : SdScan) : Prop where
  waiting : seen.2 < 3 → Waiting seen.2 scan ∧ scan.g_cnt = seen.1 ∧ seen.1 ≤ 9 + seen.2
  gaveUp : 3 ≤ seen.2 → Waiting 3 scan

theorem Looked.step {u8SdDetLvl : Nat} {seen : Nat × Nat} {scan : SdScan} {sample : SdSample}
    (looked : Looked seen scan) (unmounted : sample.isMount = false)
    (refused : ∀ timing, sample.sdcConnect timing = false) :
    Looked (look u8SdDetLvl seen sample) (hsSdScanCard u8SdDetLvl scan sample).1 := by
  by_cases few : seen.2 < 3
  · obtain ⟨waiting, count, bound⟩ := looked.waiting few
    cases detect : sdDetectChk u8SdDetLvl sample with
    | none =>
      obtain ⟨_, -, outcome⟩ := waiting.scanned few
      have same : look u8SdDetLvl seen sample = seen := by
        unfold look
        rw [detect]
      rw [same, outcome, detect]
      exact ⟨fun _ => ⟨scan.ready_waiting _, count, bound⟩, fun many => absurd many (by omega)⟩
    | some present =>
      cases present with
      | false =>
        have missed : look u8SdDetLvl seen sample = (0, seen.2) := by
          unfold look
          rw [detect]
        rw [missed]
        obtain ⟨after, cleared⟩ := waiting.absent few unmounted detect
        exact ⟨fun _ => ⟨after, cleared, Nat.zero_le _⟩, fun many => absurd many (by omega)⟩
      | true =>
        have found : look u8SdDetLvl seen sample =
            (seen.1 + 1, if 10 ≤ seen.1 + 1 then seen.2 + 1 else seen.2) := by
          unfold look
          rw [detect]
        rw [found]
        split
        · obtain ⟨after, counted⟩ :=
            waiting.fails few detect unmounted (by omega) (by omega) refused
          rw [count] at counted
          constructor
          · exact fun _ => ⟨after, counted, by omega⟩
          · intro many
            have third : seen.2 + 1 = 3 := by omega
            exact third ▸ after
        · obtain ⟨after, counted, -⟩ := waiting.counted few detect (by omega)
          rw [count] at counted
          exact ⟨fun _ => ⟨after, counted, by omega⟩, fun many => absurd many (by omega)⟩
  · have more : seen.2 ≤ (look u8SdDetLvl seen sample).2 := by
      unfold look
      split
      · exact .refl
      · exact .refl
      · dsimp only
        split
        · exact le_succ _
        · exact .refl
    have gaveUp := looked.gaveUp (by omega)
    exact ⟨fun small => absurd small (by omega), fun _ => gaveUp.gaveUp.1⟩

theorem sdRun_looked {u8SdDetLvl : Nat} {scan : SdScan} (fresh : scan.Fresh)
    {history : List SdSample} (failed : NoneConnects history) :
    Looked (looks u8SdDetLvl history) (sdRun u8SdDetLvl scan history).1 := by
  obtain ⟨timing, count, cleared⟩ := fresh
  refine run_invariant
    (fun samples (scan : SdScan) _ => NoneConnects samples → Looked (looks u8SdDetLvl samples) scan)
    ?_ ?_ history failed
  · exact fun _ => ⟨fun _ => ⟨.inl ⟨timing, count⟩, cleared, Nat.zero_le _⟩, nofun⟩
  · intro samples scan _ sample looked failed
    have earlier := fun sample member => failed sample (mem_append_left _ member)
    obtain ⟨unmounted, refused⟩ :=
      failed sample (mem_append_right _ (.head _))
    unfold looks
    rw [foldl_append]
    exact (looked earlier).step unmounted refused

/-! ### The card that comes after them -/

def timesSeen (u8SdDetLvl : Nat) (coming : Nat → SdSample) : Nat → Nat
  | 0 => 0
  | n + 1 => timesSeen u8SdDetLvl coming n +
      if sdDetectChk u8SdDetLvl (coming n) = some true then 1 else 0

section

variable {coming : Nat → SdSample}

theorem scanAt_succ (n : Nat) : scanAt u8SdDetLvl scan coming (n + 1) =
    (hsSdScanCard u8SdDetLvl (scanAt u8SdDetLvl scan coming n) (coming n)).1 := by
  unfold scanAt sdRun
  rw [range_succ, map_append, map_singleton, run_snoc]

theorem gaveUp_never (gaveUp : Waiting 3 scan) (n : Nat) :
    ¬ AnnouncedAt u8SdDetLvl scan coming n := by
  have always : Waiting 3 (scanAt u8SdDetLvl scan coming n) := by
    induction n with
    | zero => exact gaveUp
    | succ n ih =>
      rw [scanAt_succ]
      exact ih.gaveUp.1
  exact always.gaveUp.2

theorem timesSeen_le {n m : Nat} (later : n ≤ m) :
    timesSeen u8SdDetLvl coming n ≤ timesSeen u8SdDetLvl coming m := by
  induction later with
  | refl => exact .refl
  | step _ ih => exact le_trans ih (Nat.le_add_right _ _)

section

variable (card : GoodCard u8SdDetLvl scan coming)
include card

theorem GoodCard.timesSeen_unbounded (times : Nat) :
    ∃ n, times ≤ timesSeen u8SdDetLvl coming n := by
  induction times with
  | zero => exact ⟨0, Nat.zero_le _⟩
  | succ _ ih =>
    obtain ⟨n, enough⟩ := ih
    obtain ⟨m, later, detect⟩ := card.seen n
    refine ⟨m + 1, ?_⟩
    rw [timesSeen, if_pos detect]
    exact succ_le_succ (le_trans enough (timesSeen_le later))

theorem GoodCard.unannounced {failures : Nat}
    (waiting : Waiting failures scan) (few : failures < 3) (cleared : scan.g_cnt = 0) (n : Nat)
    (quiet : ∀ m, m < n → ¬ AnnouncedAt u8SdDetLvl scan coming m) :
    Waiting failures (scanAt u8SdDetLvl scan coming n) ∧
      (scanAt u8SdDetLvl scan coming n).g_cnt = timesSeen u8SdDetLvl coming n ∧
      timesSeen u8SdDetLvl coming n < 10 := by
  induction n with
  | zero => exact ⟨waiting, cleared, (by decide : 0 < 10)⟩
  | succ n ih =>
    obtain ⟨here, count, below⟩ := ih fun m earlier => quiet m (lt_succ_of_lt earlier)
    have unmounted : (coming n).isMount = false := by
      cases mounted : (coming n).isMount with
      | false => rfl
      | true =>
        obtain ⟨m, earlier, announced⟩ := card.mounted n mounted
        exact absurd announced (quiet m (lt_succ_of_lt earlier))
    rw [scanAt_succ, timesSeen]
    cases detect : sdDetectChk u8SdDetLvl (coming n) with
    | none =>
      obtain ⟨_, -, outcome⟩ := here.scanned few
      rw [outcome, detect, if_neg nofun]
      exact ⟨SdScan.ready_waiting _ _, count, below⟩
    | some present =>
      cases present with
      | false => exact absurd detect (card.stays n)
      | true =>
        by_cases more : timesSeen u8SdDetLvl coming n + 1 < 10
        · obtain ⟨after, counted, -⟩ := here.counted few detect (count.symm ▸ more)
          rw [count] at counted
          exact ⟨after, counted, more⟩
        · obtain ⟨_, inGrid, answers⟩ := card.connects
          exact absurd (here.finds few detect unmounted (by omega) (by omega) inGrid
            (answers n)) (quiet n (lt_succ_self n))

theorem GoodCard.announced {failures : Nat}
    (waiting : Waiting failures scan) (few : failures < 3) (cleared : scan.g_cnt = 0) :
    ∃ n, AnnouncedAt u8SdDetLvl scan coming n := by
  obtain ⟨n, _⟩ := card.timesSeen_unbounded 10
  apply Classical.byContradiction
  intro never
  obtain ⟨-, -, below⟩ := card.unannounced waiting few cleared n
    fun m _ announced => never ⟨m, announced⟩
  omega

end

end

/-- A search that fails has tried every timing once. But a card that connects is only
announced if no card before it has made the scan search three times. -/
theorem sd_card_search (u8SdDetLvl : Nat) : (∀ samples sample,
      .failed ∈ (hsSdScanCard u8SdDetLvl (sdRun u8SdDetLvl .init samples).1 sample).2 →
      ∀ timing, (triedSinceReset (sdRun u8SdDetLvl .init (samples ++ [sample])).2).count timing =
        if timing.InGrid then 1 else 0) ∧
    ∀ earlier history coming, (sdRun u8SdDetLvl .init earlier).1.Fresh → NoneConnects history →
      (looks u8SdDetLvl history).1 = 0 →
      GoodCard u8SdDetLvl (sdRun u8SdDetLvl (sdRun u8SdDetLvl .init earlier).1 history).1 coming →
      ((∃ n, AnnouncedAt u8SdDetLvl
          (sdRun u8SdDetLvl (sdRun u8SdDetLvl .init earlier).1 history).1 coming n) ↔
        (looks u8SdDetLvl history).2 < 3) := by
  constructor
  · intro samples sample failed timing
    have covered := (hsSdScanCard_searched (sdRun_searched u8SdDetLvl samples)).2 failed
    have log : (sdRun u8SdDetLvl .init (samples ++ [sample])).2 =
        (sdRun u8SdDetLvl .init samples).2 ++
          (hsSdScanCard u8SdDetLvl (sdRun u8SdDetLvl .init samples).1 sample).2 := by
      unfold sdRun
      rw [run_snoc]
    rw [log, covered]
    split
    · next inGrid =>
      exact count_eq_one_of_mem grid_nodup ((mem_grid timing).mpr inGrid)
    · next inGrid =>
      exact count_eq_zero.mpr fun member => inGrid ((mem_grid timing).mp member)
  · intro earlier history coming fresh failed removed card
    have looked : Looked (looks u8SdDetLvl history) _ := sdRun_looked fresh failed
    constructor
    · intro ⟨n, announced⟩
      by_cases few : (looks u8SdDetLvl history).2 < 3
      · exact few
      · exact absurd announced (gaveUp_never (looked.gaveUp (not_lt.mp few)) n)
    · intro few
      obtain ⟨waiting, count, -⟩ := looked.waiting few
      exact card.announced waiting few (count.trans removed)

def sdBadCard : SdSample := ⟨false, 0, false, fun _ => false⟩

def sdNoCard : SdSample := ⟨false, 1, false, fun _ => false⟩

def sdGoodCard : SdSample := ⟨false, 0, false, fun _ => true⟩

theorem sdGoodCard_stays (scan : SdScan) : GoodCard 0 scan (fun _ => sdGoodCard) :=
  { stays := fun _ => by decide
    seen := fun n => ⟨n, le_refl n, rfl⟩
    connects := ⟨.reset, by decide, fun _ => rfl⟩
    mounted := nofun }

def badHistory (times : Nat) : List SdSample := List.replicate times sdBadCard ++ [sdNoCard]

theorem badHistory_fails (times : Nat) : NoneConnects (badHistory times) := by
  intro _ member
  rcases mem_append.mp member with bad | absent
  · rw [eq_of_mem_replicate bad]
    exact ⟨rfl, fun _ => rfl⟩
  · rw [mem_singleton.mp absent]
    exact ⟨rfl, fun _ => rfl⟩

theorem sd_card_search_two_failures :
    .failed ∈ (hsSdScanCard 0 (sdRun 0 .init (List.replicate 9 sdBadCard)).1 sdBadCard).2 ∧
      (triedSinceReset (sdRun 0 .init (List.replicate 9 sdBadCard ++ [sdBadCard])).2).count
        ⟨1, 7, -1⟩ = 1 ∧
      ∃ n, AnnouncedAt 0 (sdRun 0 (sdRun 0 .init []).1 (badHistory 11)).1
        (fun _ => sdGoodCard) n := by
  have failed : .failed ∈
      (hsSdScanCard 0 (sdRun 0 .init (replicate 9 sdBadCard)).1 sdBadCard).2 := by
    decide +kernel
  refine ⟨failed, (sd_card_search 0).1 _ _ failed ⟨1, 7, -1⟩, ?_⟩
  exact ((sd_card_search 0).2 [] (badHistory 11) (fun _ => sdGoodCard) ⟨rfl, rfl, rfl⟩
    (badHistory_fails 11) (by decide) (sdGoodCard_stays _)).mpr (by decide)

/-- A bad card that is left in for three searches keeps the scan from every later card. -/
theorem sd_card_search_three_failures :
    (sdRun 0 .init []).1.Fresh ∧ NoneConnects (badHistory 12) ∧ (looks 0 (badHistory 12)).1 = 0 ∧
      GoodCard 0 (sdRun 0 (sdRun 0 .init []).1 (badHistory 12)).1 (fun _ => sdGoodCard) ∧
      ¬ ∃ n, AnnouncedAt 0 (sdRun 0 (sdRun 0 .init []).1 (badHistory 12)).1
        (fun _ => sdGoodCard) n := by
  have fresh : (sdRun 0 .init []).1.Fresh := ⟨rfl, rfl, rfl⟩
  have looked : Looked (looks 0 (badHistory 12)) _ := sdRun_looked fresh (badHistory_fails 12)
  refine ⟨fresh, badHistory_fails 12, by decide, sdGoodCard_stays _, ?_⟩
  intro ⟨n, announced⟩
  exact gaveUp_never (looked.gaveUp (by decide)) n announced

end Hfirmware.Drvhal
