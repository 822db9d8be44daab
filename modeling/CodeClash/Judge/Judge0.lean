import CodeClash.Async.Program
import Mathlib.Data.List.Forall2
import Mathlib.Data.Rat.Defs

/-!
# The Judge0 client

The client of `services/judge/src/services/judge0Client.ts`. A request may fail at any time, and a
response that cannot be read counts as a failed request. `submitBatch` turns a failure into a failed
result. The client compares with the text that the response repeats. `isHealthy` and the time of the
last health check are left out.
-/

namespace CodeClash.Judge

open Async

/-- The characters that `trim` removes. -/
def isSpace (c : Char) : Bool :=
  let code := c.toNat
  (9 ≤ code && code ≤ 13) || code == 32 || code == 0xA0 || code == 0x1680 ||
    (0x2000 ≤ code && code ≤ 0x200A) || code == 0x2028 || code == 0x2029 || code == 0x202F ||
    code == 0x205F || code == 0x3000 || code == 0xFEFF

def trim (text : String) : String :=
  String.ofList ((text.toList.dropWhile isSpace).reverse.dropWhile isSpace).reverse

/-- Letters are folded as far as the names of languages need it. -/
def toLowerCase (text : String) : String := String.ofList (text.toList.map Char.toLower)

def LANGUAGE_MAPPING : List (String × ℕ) :=
  [("python", 71), ("javascript", 63), ("cpp", 54), ("java", 62), ("go", 60), ("py", 71),
    ("js", 63), ("c++", 54), ("ts", 63)]

def TIMEOUT_MS : ℤ := 8000
def POLL_INTERVAL_MS : ℕ := 500
def MAX_POLL_ATTEMPTS : ℕ := 20

namespace StatusCode

def SUCCESS : ℕ := 3
def INTERNAL_ERROR : ℕ := 9
def ACCEPTED : ℕ := 3

end StatusCode

def getLanguageId (language : String) : Except String ℕ :=
  match LANGUAGE_MAPPING.lookup (toLowerCase language) with
  | some langId => .ok langId
  | none => .error ("Unsupported language: " ++ language ++ ". Supported languages: " ++
      ", ".intercalate (LANGUAGE_MAPPING.map Prod.fst))

def isSuccessfulExecution (statusId : ℕ) : Bool :=
  statusId = StatusCode.SUCCESS ∨ statusId = StatusCode.ACCEPTED

structure ExecutionLimits where
  cpuTimeLimit : ℕ
  memoryLimit : ℕ
  wallTimeLimit : ℕ
deriving DecidableEq, Repr

def getExecutionLimits (language : String) : ExecutionLimits :=
  if toLowerCase language ∈ ["java", "cpp", "go"] then ⟨3, 256, 9⟩ else ⟨2, 256, 6⟩

structure TestCase where
  input : String
  expectedOutput : String
deriving DecidableEq, Repr

structure Judge0Submission where
  sourceCode : String
  languageId : ℕ
  stdin : String
  expectedOutput : String
  cpuTimeLimit : ℕ
  memoryLimit : ℕ
  maxCpuTime : ℕ
  maxMemory : ℕ
  wallTimeLimit : ℕ
deriving DecidableEq, Repr

/-- The fields of a response that are read. The time is a number of seconds. -/
structure Judge0Result where
  statusId : ℕ
  statusDescription : String
  stdout : Option String
  time : Option ℚ
  memory : Option ℕ
  expectedOutput : Option String
deriving DecidableEq, Repr

structure TestCaseResult where
  input : String
  expectedOutput : String
  actualOutput : String
  passed : Bool
  runtimeMs : ℚ
  memoryKb : ℕ
  statusCode : ℕ
  statusDescription : String
deriving DecidableEq, Repr

namespace Judge0

/-- A failed request. Aborted connections have a code of their own. -/
inductive HttpError where
  | aborted
  | other
deriving DecidableEq, Repr

inductive Cmd where
  | now
  | delay (ms : ℕ)
  | getSystem
  | postSubmission (submission : Judge0Submission)
  | getSubmission (token : String)

abbrev Cmd.Reply : Cmd → Type
  | .now => ℤ
  | .delay _ => Unit
  | .getSystem => Except HttpError Unit
  | .postSubmission _ => Except HttpError String
  | .getSubmission _ => Except HttpError Judge0Result

abbrev signature : Signature where
  Cmd := Cmd
  Reply := Cmd.Reply

abbrev Prog (α : Type) := Program signature α

abbrev request (cmd : Cmd) : Prog cmd.Reply := @Program.perform signature cmd

end Judge0

open Judge0 (request)

def checkHealth : Judge0.Prog Bool := do
  match ← request .getSystem with
  | .ok _ => return true
  | .error _ => return false

/-- The loop of `pollForResultWithTimeout`, with a number of attempts left. -/
def pollLoop (token : String) (startTime : ℤ) : ℕ → Judge0.Prog (Except String Judge0Result)
  | 0 => return .error "Judge0 submission timeout after 20 attempts"
  | attemptsLeft + 1 => do
      let now ← request .now
      if now - startTime > TIMEOUT_MS then
        return .error "Judge0 submission timeout. Please try again."
      else
        match ← request (.getSubmission token) with
        | .ok result =>
          if result.statusId ≥ StatusCode.SUCCESS then return .ok result
          else
            request (.delay POLL_INTERVAL_MS)
            pollLoop token startTime attemptsLeft
        | .error _ =>
          if attemptsLeft = 0 then
            return .error "Failed to get result from Judge0 after maximum attempts"
          else
            request (.delay POLL_INTERVAL_MS)
            pollLoop token startTime attemptsLeft

def pollForResultWithTimeout (token : String) : Judge0.Prog (Except String Judge0Result) := do
  let startTime ← request .now
  pollLoop token startTime MAX_POLL_ATTEMPTS

def submission (sourceCode language : String) (languageId : ℕ) (testCase : TestCase) :
    Judge0Submission :=
  let limits := getExecutionLimits language
  { sourceCode := sourceCode, languageId := languageId, stdin := testCase.input
    expectedOutput := testCase.expectedOutput, cpuTimeLimit := limits.cpuTimeLimit
    memoryLimit := limits.memoryLimit, maxCpuTime := limits.cpuTimeLimit + 1
    maxMemory := limits.memoryLimit + 64, wallTimeLimit := limits.wallTimeLimit }

/-- The `try` block of `submitCode`, with its `catch` block. -/
def submitAndPoll (submission : Judge0Submission) :
    Judge0.Prog (Except String Judge0Result) := do
  match ← request (.postSubmission submission) with
  | .error .aborted => return .error "Judge0 service timed out. Please try again."
  | .error .other => return .error "Failed to submit code to Judge0. Please try again."
  | .ok token =>
    match ← pollForResultWithTimeout token with
    | .ok result => return .ok result
    | .error _ => return .error "Failed to submit code to Judge0. Please try again."

def submitCode (sourceCode language : String) (testCase : TestCase) :
    Judge0.Prog (Except String Judge0Result) := do
  if ← checkHealth then
    match getLanguageId language with
    | .error text => return .error text
    | .ok languageId => submitAndPoll (submission sourceCode language languageId testCase)
  else return .error "Judge0 service is currently unavailable. Please try again."

def Judge0Result.output (result : Judge0Result) : String := trim (result.stdout.getD "")

def Judge0Result.echo (result : Judge0Result) : String := trim (result.expectedOutput.getD "")

def isTestCasePassed (result : Judge0Result) : Bool :=
  if isSuccessfulExecution result.statusId then result.output = result.echo else false

/-- The result of a test case whose submission gave a response or failed. -/
def testCaseResult (testCase : TestCase) : Except String Judge0Result → TestCaseResult
  | .ok judge0Result =>
    { input := testCase.input
      expectedOutput := testCase.expectedOutput
      actualOutput := judge0Result.output
      passed := isTestCasePassed judge0Result
      runtimeMs := judge0Result.time.getD 0 * 1000
      memoryKb := judge0Result.memory.getD 0
      statusCode := judge0Result.statusId
      statusDescription := judge0Result.statusDescription }
  | .error _ =>
    { input := testCase.input
      expectedOutput := testCase.expectedOutput
      actualOutput := ""
      passed := false
      runtimeMs := 0
      memoryKb := 0
      statusCode := StatusCode.INTERNAL_ERROR
      statusDescription := "Internal Error" }

def submitBatch (sourceCode language : String) : List TestCase → Judge0.Prog (List TestCaseResult)
  | [] => return []
  | testCase :: testCases => do
      let outcome ← submitCode sourceCode language testCase
      let results ← submitBatch sourceCode language testCases
      return testCaseResult testCase outcome :: results

/-- The result is that of the test case, and it is marked as passed exactly if the program
succeeded and printed the expected text. -/
structure Verdict (testCase : TestCase) (result : TestCaseResult) : Prop where
  input : result.input = testCase.input
  expectedOutput : result.expectedOutput = testCase.expectedOutput
  passed : result.passed = true ↔
    result.statusCode = StatusCode.SUCCESS ∧ result.actualOutput = trim testCase.expectedOutput

/-- A successful response repeats the expected text, or the program printed something else than
either text. -/
def Faithful (testCase : TestCase) : Except String Judge0Result → Prop
  | .ok result => result.statusId = StatusCode.SUCCESS →
      result.echo ≠ trim testCase.expectedOutput →
      result.output ≠ result.echo ∧ result.output ≠ trim testCase.expectedOutput
  | .error _ => True

def submitAll (sourceCode language : String) :
    List TestCase → Judge0.Prog (List (Except String Judge0Result))
  | [] => return []
  | testCase :: testCases => do
      let outcome ← submitCode sourceCode language testCase
      let outcomes ← submitAll sourceCode language testCases
      return outcome :: outcomes

theorem isTestCasePassed_iff {result : Judge0Result} :
    isTestCasePassed result = true ↔
      result.statusId = StatusCode.SUCCESS ∧ result.output = result.echo := by
  have accepted : StatusCode.ACCEPTED = StatusCode.SUCCESS := rfl
  simp [isTestCasePassed, isSuccessfulExecution, accepted]

theorem verdict_iff (testCase : TestCase) (outcome : Except String Judge0Result) :
    Verdict testCase (testCaseResult testCase outcome) ↔ Faithful testCase outcome := by
  cases outcome with
  | error =>
    refine iff_of_true ⟨rfl, rfl, ?_⟩ trivial
    simp [testCaseResult, StatusCode.INTERNAL_ERROR, StatusCode.SUCCESS]
  | ok result =>
    have iff_passed : Verdict testCase (testCaseResult testCase (.ok result)) ↔
        (result.statusId = StatusCode.SUCCESS ∧ result.output = result.echo ↔
          result.statusId = StatusCode.SUCCESS ∧
            result.output = trim testCase.expectedOutput) := by
      constructor
      · intro verdict
        exact isTestCasePassed_iff.symm.trans verdict.passed
      · intro same
        exact ⟨rfl, rfl, isTestCasePassed_iff.trans same⟩
    rw [iff_passed, Faithful]
    by_cases success : result.statusId = StatusCode.SUCCESS
    · simp only [success, true_and, true_implies]
      constructor
      · intro same differs
        have echoed : result.output ≠ result.echo := by
          intro printed
          exact differs (printed.symm.trans (same.mp printed))
        exact ⟨echoed, fun printed => echoed (same.mpr printed)⟩
      · intro faithful
        by_cases repeated : result.echo = trim testCase.expectedOutput
        · rw [repeated]
        · exact iff_of_false (faithful repeated).1 (faithful repeated).2
    · simp [success]

section Runs

variable {Store Choice : Type}
  {handle : (cmd : Judge0.Cmd) → Choice → Store → cmd.Reply × Store}
  {meanwhile : ℕ → Store → Store} {choices : ℕ → Choice} {store : Store}

theorem submitBatch_eq (sourceCode language : String) (testCases : List TestCase) :
    submitBatch sourceCode language testCases =
      (submitAll sourceCode language testCases >>= fun outcomes =>
        .done (List.zipWith testCaseResult testCases outcomes)) := by
  induction testCases with
  | nil => rfl
  | cons _ _ ih =>
    rw [submitBatch, submitAll, ih, Program.bind_assoc]
    congr 1
    funext outcome
    rw [Program.bind_assoc, Program.bind_assoc]
    rfl

theorem submitAll_length (sourceCode language : String) (testCases : List TestCase) :
    ((submitAll sourceCode language testCases).run handle meanwhile choices store).1.length =
      testCases.length := by
  induction testCases generalizing meanwhile choices store with
  | nil => rfl
  | cons testCase testCases ih =>
    rw [submitAll]
    rcases Program.run_bind handle (submitCode sourceCode language testCase) (fun outcome => do
      let outcomes ← submitAll sourceCode language testCases
      return outcome :: outcomes) meanwhile choices store with ⟨used, split⟩
    rw [split]
    simp only [Program.pure_eq_done, Program.run_bind_done, List.length_cons, ih]

end Runs

theorem forall₂_zipWith_iff {α β γ : Type} {Holds : α → γ → Prop} {Given : α → β → Prop}
    {f : α → β → γ} (same : ∀ x y, Holds x (f x y) ↔ Given x y) {xs : List α} {ys : List β}
    (length : ys.length = xs.length) :
    List.Forall₂ Holds xs (List.zipWith f xs ys) ↔ List.Forall₂ Given xs ys := by
  induction xs generalizing ys with
  | nil =>
    obtain rfl := List.length_eq_zero_iff.mp length
    simp
  | cons _ _ ih =>
    cases ys with
    | nil => cases length
    | cons =>
      rw [List.zipWith_cons_cons, List.forall₂_cons, List.forall₂_cons, same,
        ih (Nat.succ.inj length)]

/--
Whatever Judge0 answers, `submitBatch` returns one result for each test case in order, and the
results are right exactly if the responses are faithful.
-/
theorem submitBatch_verdicts_iff {Store Choice : Type}
    (handle : (cmd : Judge0.Cmd) → Choice → Store → cmd.Reply × Store)
    (meanwhile : ℕ → Store → Store) (choices : ℕ → Choice) (store : Store)
    (sourceCode language : String) (testCases : List TestCase) :
    List.Forall₂ Verdict testCases
        ((submitBatch sourceCode language testCases).run handle meanwhile choices store).1 ↔
      List.Forall₂ Faithful testCases
        ((submitAll sourceCode language testCases).run handle meanwhile choices store).1 := by
  rw [submitBatch_eq, Program.run_bind_done]
  exact forall₂_zipWith_iff verdict_iff (submitAll_length sourceCode language testCases)

def alwaysAnswer (result : Judge0Result) (cmd : Judge0.Cmd) (_choice _store : Unit) :
    cmd.Reply × Unit :=
  match cmd with
  | .now => (0, ())
  | .delay _ => ((), ())
  | .getSystem => (.ok (), ())
  | .postSubmission _ => (.ok "token", ())
  | .getSubmission _ => (.ok result, ())

/-- The program prints the expected text, and the response does not repeat it. -/
theorem correct_output_is_failed :
    ¬List.Forall₂ Verdict [⟨"1 2", "3"⟩]
      ((submitBatch "print(3)" "python" [⟨"1 2", "3"⟩]).run
        (alwaysAnswer ⟨3, "Accepted", some "3\n", none, none, none⟩) (fun _ store => store)
        (fun _ => ()) ()).1 := by
  have results : ((submitBatch "print(3)" "python" [⟨"1 2", "3"⟩]).run
      (alwaysAnswer ⟨3, "Accepted", some "3\n", none, none, none⟩) (fun _ store => store)
      (fun _ => ()) ()).1 = [⟨"1 2", "3", "3", false, 0, 0, 3, "Accepted"⟩] := by
    decide +kernel
  rw [results]
  intro verdicts
  cases verdicts with
  | cons verdict => exact absurd (verdict.passed.mpr (by decide)) (by decide)

end CodeClash.Judge
