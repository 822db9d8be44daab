import CodeClash.Async.Transcript
import CodeClash.Judge.Judge0

/-!
# Polling for a result

`pollForResultWithTimeout` asks Judge0 for a submission until the response is finished. It gives up
after 20 requests, failed ones included, or when more than 8000 ms have passed since it began. A
response whose status is not a number is not finished, and one without a status is a failed request.
-/

namespace CodeClash.Judge

open Async Program

namespace Judge0

abbrev Transcript := List (Answer signature)

def response? : Answer signature → Option (Except HttpError Judge0Result)
  | ⟨.getSubmission _, reply⟩ => some reply
  | _ => none

def responses (past : Transcript) : List (Except HttpError Judge0Result) :=
  past.filterMap response?

def finished? : Except HttpError Judge0Result → Option Judge0Result
  | .ok result => if result.statusId ≥ StatusCode.SUCCESS then some result else none
  | .error _ => none

def reading (now : ℤ) : Answer signature := ⟨.now, now⟩

/-- Every request is for the token and follows directly on a reading of the clock that is not
too late. -/
def Timely (token : String) (startTime : ℤ) (past : Transcript) : Prop :=
  ∀ before asked reply after, past = before ++ ⟨.getSubmission asked, reply⟩ :: after →
    asked = token ∧ ∃ earlier now, before = earlier ++ [reading now] ∧ now - startTime ≤ 8000

/-- What a poll with a number of attempts has done when it ends. -/
structure Polled (token : String) (startTime : ℤ) (attempts : ℕ) (past : Transcript)
    (outcome : Except String Judge0Result) : Prop where
  bounded : (responses past).length ≤ attempts
  timely : Timely token startTime past
  returns : ∀ result, outcome = .ok result ↔ (responses past).findSome? finished? = some result
  /-- All attempts were made, or the clock was too late in the end. -/
  throws : ∀ text, outcome = .error text → (responses past).length = attempts ∨
    ∃ before now, past = before ++ [reading now] ∧ now - startTime > 8000

variable {token : String} {startTime now : ℤ} {attempts : ℕ} {past : Transcript}
  {outcome : Except String Judge0Result} {response : Except HttpError Judge0Result}

theorem timely_nil : Timely token startTime [] := by
  intro _ _ _ _ split
  simp at split

theorem Timely.cons {answer : Answer signature} (timely : Timely token startTime past)
    (other : response? answer = none) : Timely token startTime (answer :: past) := by
  intro before asked reply after split
  cases before with
  | nil =>
    obtain rfl : answer = ⟨.getSubmission asked, reply⟩ := (List.cons.inj split).1
    cases other
  | cons first before =>
    rcases timely before asked reply after (List.cons.inj split).2 with
      ⟨same, earlier, now, rfl, inTime⟩
    exact ⟨same, first :: earlier, now, rfl, inTime⟩

theorem Timely.request (timely : Timely token startTime past) (inTime : now - startTime ≤ 8000) :
    Timely token startTime (reading now :: ⟨.getSubmission token, response⟩ :: past) := by
  intro before asked reply after split
  rcases before with _ | ⟨first, _ | ⟨second, before⟩⟩
  · cases (List.cons.inj split).1
  · cases split
    exact ⟨rfl, [], now, rfl, inTime⟩
  · rcases timely before asked reply after (List.cons.inj (List.cons.inj split).2).2 with
      ⟨same, earlier, later, rfl, inTime⟩
    exact ⟨same, first :: second :: earlier, later, rfl, inTime⟩

theorem throws_iff {text : String} (unfinished : (responses past).findSome? finished? = none)
    (result : Judge0Result) :
    (.error text : Except String Judge0Result) = .ok result ↔
      (responses past).findSome? finished? = some result := by
  rw [unfinished]
  simp

theorem polled_nothing (text : String) : Polled token startTime 0 [] (.error text) where
  bounded := Nat.le_refl 0
  timely := timely_nil
  returns := throws_iff rfl
  throws _ _ := Or.inl rfl

theorem polled_late (late : now - startTime > 8000) (text : String) :
    Polled token startTime attempts [reading now] (.error text) where
  bounded := Nat.zero_le attempts
  timely := timely_nil.cons rfl
  returns := throws_iff rfl
  throws _ _ := Or.inr ⟨[], now, rfl, late⟩

theorem polled_failed (inTime : now - startTime ≤ 8000) (error : HttpError) (text : String) :
    Polled token startTime 1 [reading now, ⟨.getSubmission token, .error error⟩]
      (.error text) where
  bounded := Nat.le_refl 1
  timely := timely_nil.request inTime
  returns := throws_iff rfl
  throws _ _ := Or.inl rfl

theorem polled_finished {result : Judge0Result} (inTime : now - startTime ≤ 8000)
    (finished : result.statusId ≥ StatusCode.SUCCESS) :
    Polled token startTime (attempts + 1)
      [reading now, ⟨.getSubmission token, .ok result⟩] (.ok result) where
  bounded := Nat.succ_le_succ (Nat.zero_le attempts)
  timely := timely_nil.request inTime
  returns other := by
    have found : finished? (.ok result) = some result := if_pos finished
    change _ ↔ [Except.ok result].findSome? finished? = some other
    rw [List.findSome?_cons, found, Except.ok.injEq, Option.some.injEq]
  throws _ same := by cases same

theorem Polled.again (polled : Polled token startTime attempts past outcome)
    (inTime : now - startTime ≤ 8000) (unfinished : finished? response = none) :
    Polled token startTime (attempts + 1)
      (reading now :: ⟨.getSubmission token, response⟩ ::
        ⟨.delay POLL_INTERVAL_MS, ()⟩ :: past) outcome where
  bounded := Nat.succ_le_succ polled.bounded
  timely := (polled.timely.cons rfl).request inTime
  returns result := by
    change _ ↔ (response :: responses past).findSome? finished? = some result
    rw [List.findSome?_cons, unfinished]
    exact polled.returns result
  throws text same := by
    rcases polled.throws text same with all | ⟨before, later, rfl, late⟩
    · exact Or.inl (congrArg Nat.succ all)
    · exact Or.inr ⟨_ :: _ :: _ :: before, later, rfl, late⟩

theorem pollLoop_polled (ends : (pollLoop token startTime attempts).Yields past outcome) :
    Polled token startTime attempts past outcome := by
  induction attempts generalizing past with
  | zero =>
    rcases yields_done.mp ends with ⟨rfl, rfl⟩
    exact polled_nothing _
  | succ attempts ih =>
    rcases yields_perform_bind.mp ends with ⟨now, rest, rfl, checked⟩
    by_cases late : now - startTime > TIMEOUT_MS
    · rw [if_pos late] at checked
      rcases yields_done.mp checked with ⟨rfl, rfl⟩
      exact polled_late late _
    rw [if_neg late] at checked
    have inTime : now - startTime ≤ 8000 := Int.not_lt.mp late
    rcases yields_perform_bind.mp checked with ⟨response, rest, rfl, answered⟩
    cases response with
    | ok result =>
      by_cases finished : result.statusId ≥ StatusCode.SUCCESS
      · simp only [if_pos finished] at answered
        rcases yields_done.mp answered with ⟨rfl, rfl⟩
        exact polled_finished inTime finished
      · simp only [if_neg finished] at answered
        rcases yields_perform_bind.mp answered with ⟨⟨⟩, rest, rfl, later⟩
        exact (ih later).again inTime (if_neg finished)
    | error error =>
      by_cases last : attempts = 0
      · simp only [if_pos last] at answered
        rcases yields_done.mp answered with ⟨rfl, rfl⟩
        subst last
        exact polled_failed inTime error _
      · simp only [if_neg last] at answered
        rcases yields_perform_bind.mp answered with ⟨⟨⟩, _, rfl, later⟩
        exact (ih later).again inTime rfl

/--
However the requests are answered and whatever the clock shows, a poll reads the clock, makes at
most 20 requests, each within 8000 ms, and returns the first response that is finished. It throws
only if there is none after 20 requests or if the time is up.
-/
theorem pollForResultWithTimeout_polled {Store Choice : Type}
    (handle : (cmd : signature.Cmd) → Choice → Store → signature.Reply cmd × Store)
    (meanwhile : ℕ → Store → Store) (choices : ℕ → Choice) (store : Store) (token : String) :
    ∃ startTime past,
      (pollForResultWithTimeout token).record handle meanwhile choices store =
        reading startTime :: past ∧
      Polled token startTime 20 past
        ((pollForResultWithTimeout token).run handle meanwhile choices store).1 := by
  have ends := yields_run handle meanwhile choices (pollForResultWithTimeout token) store
  rcases yields_perform_bind.mp ends with ⟨startTime, past, recorded, ends⟩
  exact ⟨startTime, past, recorded, pollLoop_polled ends⟩

end Judge0

end CodeClash.Judge
