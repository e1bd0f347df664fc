/-
Nested loops that search for an accepted candidate and return from inside when they find
one.
-/

import Mathlib

namespace Hfirmware.ResumedSearch

variable {Position Candidate : Type}

/-- The counters after a call, what it has tried, and whether it returned from inside. -/
structure Outcome (Position Candidate : Type) where
  position : Position
  tried : List Candidate
  found : Bool

def Outcome.after (outcome : Outcome Position Candidate) (tried : List Candidate) :
    Outcome Position Candidate :=
  { outcome with tried := tried ++ outcome.tried }

def loop (body : Position → Outcome Position Candidate) (step : Position → Position) :
    Nat → Position → Outcome Position Candidate
  | 0, position => ⟨position, [], false⟩
  | count + 1, position =>
    let inner := body position
    if inner.found then inner
    else (loop body step count (step inner.position)).after inner.tried

/-- A search through a list: behind an accepted candidate, or to the end. -/
def search (accepts : Candidate → Bool) (resume : Candidate → Position) (final : Position) :
    List Candidate → Outcome Position Candidate
  | [] => ⟨final, [], false⟩
  | candidate :: rest =>
    if accepts candidate then ⟨resume candidate, [candidate], true⟩
    else (search accepts resume final rest).after [candidate]

section

variable {accepts : Candidate → Bool} {resume : Candidate → Position} {final : Position}
  {candidates : List Candidate}

variable {candidate : Candidate}

theorem search_cons_accepted (accepted : accepts candidate) :
    search accepts resume final (candidate :: candidates) =
      ⟨resume candidate, [candidate], true⟩ := if_pos accepted

theorem search_cons_refused (refused : accepts candidate = false) :
    search accepts resume final (candidate :: candidates) =
      (search accepts resume final candidates).after [candidate] :=
  if_neg (Bool.eq_false_iff.mp refused)

theorem search_missed (missed : (search accepts resume final candidates).found = false) :
    search accepts resume final candidates = ⟨final, candidates, false⟩ := by
  induction candidates with
  | nil => rfl
  | cons candidate _ ih =>
    cases decision : accepts candidate with
    | true =>
      rw [search_cons_accepted decision] at missed
      cases missed
    | false =>
      rw [search_cons_refused decision] at missed ⊢
      rw [ih missed]
      rfl

theorem search_refused (refused : ∀ candidate, accepts candidate = false) :
    search accepts resume final candidates = ⟨final, candidates, false⟩ := by
  apply search_missed
  induction candidates with
  | nil => rfl
  | cons candidate _ ih =>
    rwa [search_cons_refused (refused candidate)]

theorem found_of_mem (member : candidate ∈ candidates) (accepted : accepts candidate) :
    (search accepts resume final candidates).found := by
  induction candidates with
  | nil => cases member
  | cons head _ ih =>
    cases decision : accepts head with
    | true => rw [search_cons_accepted decision]
    | false =>
      rw [search_cons_refused decision]
      cases member with
      | head => exact absurd accepted (Bool.eq_false_iff.mp decision)
      | tail _ later => exact ih later

theorem search_append (between : Position) (second : List Candidate) :
    search accepts resume final (candidates ++ second) =
      if (search accepts resume between candidates).found then
        search accepts resume between candidates
      else (search accepts resume final second).after candidates := by
  induction candidates with
  | nil => rfl
  | cons candidate rest ih =>
    rw [List.cons_append]
    cases decision : accepts candidate with
    | true => rw [search_cons_accepted decision, search_cons_accepted decision, if_pos rfl]
    | false =>
      rw [search_cons_refused decision, search_cons_refused decision, ih]
      change _ = if (search accepts resume between rest).found = true then _ else _
      split
      · rfl
      · rfl

end

section

variable {accepts : Candidate → Bool} {resume : Candidate → Position}
  {body idle : Position → Outcome Position Candidate} {step : Position → Position}

theorem loop_eq_search (searches : ∀ position,
      body position = search accepts resume (idle position).position (idle position).tried)
    (misses : ∀ position, (idle position).found = false) (count : Nat) (position : Position) :
    loop body step count position = search accepts resume (loop idle step count position).position
        (loop idle step count position).tried := by
  induction count generalizing position with
  | zero => rfl
  | succ count ih =>
    have unfolded : loop idle step (count + 1) position =
        (loop idle step count (step (idle position).position)).after (idle position).tried := by
      exact if_neg (Bool.eq_false_iff.mp (misses position))
    rw [unfolded, loop]
    dsimp only [Outcome.after]
    rw [search_append (idle position).position, searches position]
    by_cases found : (search accepts resume (idle position).position (idle position).tried).found
    · rw [if_pos found, if_pos found]
    · rw [if_neg found, if_neg found, search_missed (Bool.eq_false_iff.mpr found), ih]
      rfl

theorem loop_misses (misses : ∀ position, (idle position).found = false) (count : Nat)
    (position : Position) : (loop idle step count position).found = false := by
  induction count generalizing position with
  | zero => rfl
  | succ _ ih =>
    rw [loop, if_neg (Bool.eq_false_iff.mp (misses position))]
    exact ih _

theorem loop_keeps {Value : Type} (value : Position → Value)
    (bodyKeeps : ∀ position, value (body position).position = value position)
    (stepKeeps : ∀ position, value (step position) = value position) (count : Nat)
    (position : Position) : value (loop body step count position).position = value position := by
  induction count generalizing position with
  | zero => rfl
  | succ _ ih =>
    rw [loop]
    split
    · exact bodyKeeps position
    · exact (ih _).trans ((stepKeeps _).trans (bodyKeeps position))

end

theorem search_resumes {accepts : Candidate → Bool} {resume : Candidate → Position}
    {final : Position} {ahead : Position → List Candidate} {good : Position → Prop}
    (resumes : ∀ position candidate later, good position → ahead position = candidate :: later →
      good (resume candidate) ∧ ahead (resume candidate) = later)
    (final_good : good final) (ends : ahead final = []) {position : Position}
    (here : good position) :
    let after := search accepts resume final (ahead position)
    good after.position ∧ ahead position = after.tried ++ ahead after.position := by
  generalize listed : ahead position = candidates
  induction candidates generalizing position with
  | nil => exact ⟨final_good, ends.symm⟩
  | cons candidate rest ih =>
    obtain ⟨later, same⟩ := resumes position candidate rest here listed
    cases decision : accepts candidate with
    | true =>
      rw [search_cons_accepted decision]
      exact ⟨later, congrArg (candidate :: ·) same.symm⟩
    | false =>
      rw [search_cons_refused decision]
      obtain ⟨goodAfter, rest_eq⟩ := ih later same
      exact ⟨goodAfter, congrArg (candidate :: ·) rest_eq⟩

end Hfirmware.ResumedSearch
