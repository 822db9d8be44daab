import CodeClash.Async.Transcript
import CodeClash.Judge.Ledger

/-!
# Damage without a passed test

A submission that passes no test should do no damage. The efficiency bonus is given whenever the
average runtime is below the benchmark, though, and a submission whose requests to Judge0 all failed
has the runtime zero.
-/

namespace CodeClash.Judge

open Async Program

def benchmarkOf : Answer signature → Option PuzzleBenchmark
  | ⟨.findBenchmark _ _, .ok benchmark⟩ => benchmark
  | _ => none

def benchmarkRead (past : List (Answer signature)) : Option PuzzleBenchmark :=
  past.findSome? benchmarkOf

/-- The runtime that counts for the efficiency bonus: failed requests have the runtime zero. -/
def averageRuntime (testCaseResults : List TestCaseResult) : ℤ :=
  round ((testCaseResults.map TestCaseResult.runtimeMs).sum / testCaseResults.length)

/-- No damage is reported, stored or sent, and the hit points that are written for the opponent
are those that were read. -/
structure Harmless (userId : UserId) (past : List (Answer signature))
    (battleDamage : BattleDamageResult) : Prop where
  reported : battleDamage.damage = 0
  stored : ∀ row reply, (⟨.createSubmission row, reply⟩ : Answer signature) ∈ past →
    row.damageDealt = 0
  sent : ∀ event timestamp reply,
    (⟨.setDamageEvent event timestamp, reply⟩ : Answer signature) ∈ past → event.damage = 0
  subtracted : ∀ roomId side hp reply,
    (⟨.setHp roomId side hp, reply⟩ : Answer signature) ∈ past →
      ∃ hash, (⟨.hGetAll roomId, hash⟩ : Answer signature) ∈ past ∧
        hp = max 0 (hash.opponentHp userId : ℚ)

def Cmd.Preliminary : Cmd → Prop
  | .findBenchmark _ _ | .createSubmission _ | .setDamageEvent _ _ | .setHp _ _ _ => False
  | _ => True

/-- The command reads no benchmark, and the damage that it tells about is the given one. -/
def Cmd.Records (execution : ExecutionRequest) (battleDamage : BattleDamageResult) : Cmd → Prop
  | .findBenchmark _ _ => False
  | .createSubmission row => row.damageDealt = battleDamage.damage
  | .setDamageEvent event _ => event = battleDamage
  | .setHp roomId _ hp => roomId = execution.roomId ∧ hp = battleDamage.opponentHp
  | _ => True

variable {battleDamage : BattleDamageResult} {execution : ExecutionRequest}
  {past : List (Answer signature)} {executionResult : ExecutionResult}
  {elapsedSeconds timeLimitSeconds : ℚ}

theorem recordDamage_records (execution : ExecutionRequest)
    (unsolved : battleDamage.executionResult.passed ≠ battleDamage.executionResult.total) :
    (recordDamage execution battleDamage).Uses (Cmd.Records execution battleDamage) := by
  rw [recordDamage, if_neg fun solved => unsolved solved.1]
  refine uses_bind trivial fun _ => ?_
  refine uses_bind (uses_perform_bind rfl fun _ => trivial) fun _ => ?_
  refine uses_bind (uses_perform_bind (by exact trivial) fun hash => ?_) fun _ => ?_
  · exact ⟨⟨rfl, rfl⟩, fun _ => ⟨trivial, fun _ => ⟨trivial, fun _ => trivial⟩⟩⟩
  · exact uses_perform_bind (by exact trivial) fun _ => uses_perform rfl

variable {language : String} {securityErrors : String → String → List String}

theorem submitBatch_length {sourceCode : String} {testCases : List TestCase}
    {past : List (Answer Judge0.signature)} {results : List TestCaseResult}
    (yields : (submitBatch sourceCode language testCases).Yields past results) :
    results.length = testCases.length := by
  induction testCases generalizing past results with
  | nil =>
    rcases yields_done.mp yields with ⟨_, rfl⟩
    rfl
  | cons _ _ ih =>
    rcases yields_bind.mp yields with ⟨_, _, _, rfl, _, later⟩
    rcases yields_bind.mp later with ⟨_, _, _, rfl, found, last⟩
    rcases yields_done.mp last with ⟨_, rfl⟩
    rw [List.length_cons, List.length_cons, ih found]

theorem executePuzzle_yields {puzzle : Puzzle}
    (yields : (executePuzzle execution puzzle).Yields past battleDamage) :
    ∃ before rest testCaseResults elapsedSeconds, past = before ++ rest ∧
      (∀ answer ∈ before, answer.cmd.Preliminary) ∧
      testCaseResults.length = puzzle.testCases.length ∧
      (assessExecution execution (summarize testCaseResults) elapsedSeconds
        (puzzle.timeLimitMs / 1000)).Yields rest battleDamage := by
  rcases yields_perform_bind.mp yields with ⟨battleState, _, rfl, afterRead⟩
  rcases yields_bind.mp afterRead with ⟨starting, _, _, rfl, starts, afterStart⟩
  rcases yields_perform_bind.mp afterStart with ⟨now, _, rfl, afterNow⟩
  rcases yields_bind.mp afterNow with ⟨judging, results, rest, rfl, judged, assessed⟩
  rcases judged.of_embed with ⟨_, found⟩
  refine ⟨⟨.hGetAll execution.roomId, battleState⟩ :: (starting ++ ⟨.now, now⟩ :: judging), rest,
    results, _, by simp, ?_, submitBatch_length found, assessed⟩
  have startsQuietly : (startTimeOf battleState).Uses Cmd.Preliminary := by
    rw [startTimeOf]
    split
    · trivial
    · exact uses_perform (by exact trivial)
  have judgesQuietly : (judge0Client (submitBatch execution.code execution.language
      puzzle.testCases)).Uses Cmd.Preliminary :=
    (uses_of_forall (fun _ => trivial) _).embed fun _ (_ : True) => trivial
  intro answer member
  simp only [List.mem_cons, List.mem_append] at member
  rcases member with rfl | member | rfl | member
  · trivial
  · exact startsQuietly.yields starts answer member
  · trivial
  · exact judgesQuietly.yields judged answer member

theorem executeCode_yields
    (yields : (executeCode securityErrors execution).Yields past (.ok battleDamage)) :
    ∃ before rest puzzle, past = before ++ rest ∧ (∀ answer ∈ before, answer.cmd.Preliminary) ∧
      puzzle.testCases ≠ [] ∧ (executePuzzle execution puzzle).Yields rest battleDamage := by
  rw [executeCode] at yields
  split at yields
  · cases (yields_done.mp yields).2
  rcases yields_perform_bind.mp yields with ⟨rateLimit, _, rfl, afterLimit⟩
  split at afterLimit
  · rcases yields_perform_bind.mp afterLimit with ⟨_, _, _, rejected⟩
    cases (yields_done.mp rejected).2
  rcases yields_perform_bind.mp afterLimit with ⟨_, _, rfl, afterFind⟩
  split at afterFind
  · cases (yields_done.mp afterFind).2
  · cases (yields_done.mp afterFind).2
  split at afterFind
  · cases (yields_done.mp afterFind).2
  rename_i puzzle nonempty
  rcases yields_bind.mp afterFind with ⟨rest, _, _, rfl, executed, last⟩
  rcases yields_done.mp last with ⟨rfl, same⟩
  cases same
  refine ⟨[⟨.checkSubmissionRateLimit execution.userId, rateLimit⟩,
    ⟨.findPuzzle execution.puzzleId, .ok (some puzzle)⟩], rest, puzzle, by simp, ?_, nonempty,
    executed⟩
  intro _ member
  simp only [List.mem_cons, List.not_mem_nil, or_false] at member
  rcases member with rfl | rfl <;> trivial

theorem getPuzzleBenchmark_yields {puzzleId : String} {benchmark : Option PuzzleBenchmark}
    (yields : (getPuzzleBenchmark puzzleId language).Yields past benchmark) :
    ∃ found, past = [⟨.findBenchmark puzzleId language, found⟩] ∧
      benchmark = benchmarkOf ⟨.findBenchmark puzzleId language, found⟩ := by
  rcases yields_perform_bind.mp yields with ⟨found, _, rfl, chosen⟩
  cases found with
  | ok =>
    rcases yields_done.mp chosen with ⟨rfl, rfl⟩
    exact ⟨.ok benchmark, rfl, rfl⟩
  | error failure =>
    rcases yields_done.mp chosen with ⟨rfl, rfl⟩
    exact ⟨.error failure, rfl, rfl⟩

theorem getOpponentHp_yields {roomId : RoomId} {userId : UserId}
    {hp : ℤ} (yields : (getOpponentHp roomId userId).Yields past hp) :
    ∃ hash, past = [⟨.hGetAll roomId, hash⟩] ∧ hp = hash.opponentHp userId := by
  rcases yields_perform_bind.mp yields with ⟨hash, _, rfl, chosen⟩
  refine ⟨hash, ?_⟩
  rw [BattleHash.opponentHp]
  cases stored : (hash.fields (hash.sideOf userId).other).hp <;>
  · simp only [stored] at chosen
    rcases yields_done.mp chosen with ⟨rfl, rfl⟩
    exact ⟨rfl, rfl⟩

theorem assessExecution_executionResult
    (yields : (assessExecution execution executionResult elapsedSeconds timeLimitSeconds).Yields
      past battleDamage) : battleDamage.executionResult = executionResult := by
  rcases yields_bind.mp yields with ⟨_, _, _, _, _, afterRead⟩
  rcases yields_bind.mp afterRead with ⟨_, _, _, _, _, afterCheck⟩
  rcases yields_bind.mp afterCheck with ⟨_, _, _, _, _, afterLook⟩
  rcases yields_bind.mp afterLook with ⟨_, _, _, _, _, last⟩
  rw [(yields_done.mp last).2]
  rfl

theorem assessExecution_yields (unsolved : executionResult.passed ≠ executionResult.total)
    (yields : (assessExecution execution executionResult elapsedSeconds timeLimitSeconds).Yields
      past battleDamage) :
    ∃ found hash records,
      past = ⟨.findBenchmark execution.puzzleId execution.language, found⟩ ::
        ⟨.hGetAll execution.roomId, hash⟩ :: records ∧
      battleDamage = calculateBattleDamage execution.userId execution.roomId executionResult
        elapsedSeconds timeLimitSeconds (hash.opponentHp execution.userId)
        (benchmarkOf ⟨.findBenchmark execution.puzzleId execution.language, found⟩) false ∧
      ∀ answer ∈ records, answer.cmd.Records execution battleDamage := by
  rcases yields_bind.mp yields with ⟨_, _, _, rfl, reads, afterRead⟩
  rcases getPuzzleBenchmark_yields reads with ⟨found, rfl, rfl⟩
  rw [checkFirstSolve, if_pos unsolved, Program.pure_eq_done, Program.done_bind] at afterRead
  rcases yields_bind.mp afterRead with ⟨_, _, _, rfl, looks, afterLook⟩
  rcases getOpponentHp_yields looks with ⟨hash, rfl, rfl⟩
  rcases yields_bind.mp afterLook with ⟨records, _, _, rfl, recorded, last⟩
  rcases yields_done.mp last with ⟨rfl, rfl⟩
  refine ⟨found, hash, records, by simp, rfl, ?_⟩
  exact (recordDamage_records execution unsolved).yields recorded

/-- The transcript of a call whose submission passes no test, and the damage that it reports. -/
structure Failed (execution : ExecutionRequest) (battleDamage : BattleDamageResult)
    (before : List (Answer signature)) (found : Except Failure (Option PuzzleBenchmark))
    (hash : BattleHash) (records : List (Answer signature)) : Prop where
  quiet : ∀ answer ∈ before, answer.cmd.Preliminary
  recorded : ∀ answer ∈ records, answer.cmd.Records execution battleDamage
  runtime : battleDamage.executionResult.runtimeMs =
    averageRuntime battleDamage.executionResult.testCaseResults
  damage : battleDamage.damage = bonus (Efficient battleDamage.executionResult.runtimeMs
    (benchmarkOf ⟨.findBenchmark execution.puzzleId execution.language, found⟩)) 10
  opponentHp : battleDamage.opponentHp =
    max 0 ((hash.opponentHp execution.userId : ℚ) - battleDamage.damage)

theorem cappedDamage_of_none {puzzleBenchmark : Option PuzzleBenchmark}
    (failed : executionResult.passed = 0) :
    (calculateDamage executionResult elapsedSeconds timeLimitSeconds puzzleBenchmark
      false).cappedDamage = bonus (Efficient executionResult.runtimeMs puzzleBenchmark) 10 := by
  have ratio : executionResult.passedRatio = 0 := by
    simp [ExecutionResult.passedRatio, failed]
  have unsolved : ¬(executionResult.passed = executionResult.total ∧
      executionResult.total > 0) := by omega
  have total : (calculateDamage executionResult elapsedSeconds timeLimitSeconds puzzleBenchmark
      false).totalDamage = bonus (Efficient executionResult.runtimeMs puzzleBenchmark) 10 := by
    rw [totalDamage_eq, ratio]
    simp [bonus, unsolved]
  have small := (bonus_bounds (Efficient executionResult.runtimeMs puzzleBenchmark)
    (show (0 : ℚ) ≤ 10 by norm_num)).2
  rw [← total] at small ⊢
  exact min_eq_left (small.trans (by decide +kernel))

theorem bonus_eq_zero_iff {condition : Prop} [Decidable condition] {amount : ℚ}
    (positive : 0 < amount) : bonus condition amount = 0 ↔ ¬condition := by
  rw [bonus]
  split_ifs with holds
  · exact iff_of_false positive.ne' (not_not.mpr holds)
  · exact iff_of_true rfl holds

theorem failed_of_yields
    (yields : (executeCode securityErrors execution).Yields past (.ok battleDamage))
    (failed : battleDamage.executionResult.passed = 0) :
    ∃ before found hash records,
      past = before ++ ⟨.findBenchmark execution.puzzleId execution.language, found⟩ ::
        ⟨.hGetAll execution.roomId, hash⟩ :: records ∧
      Failed execution battleDamage before found hash records := by
  rcases executeCode_yields yields with ⟨before, _, _, rfl, quiet, nonempty, executed⟩
  rcases executePuzzle_yields executed with
    ⟨between, _, results, elapsedSeconds, rfl, quietBetween, length, assessed⟩
  have result := assessExecution_executionResult assessed
  have unsolved : (summarize results).passed ≠ (summarize results).total := by
    rw [← result, failed, result]
    have tests := List.length_pos_iff.mpr nonempty
    change 0 ≠ results.length
    omega
  rcases assessExecution_yields unsolved assessed with ⟨found, hash, records, rfl, rfl, recorded⟩
  refine ⟨before ++ between, found, hash, records, by simp, ?_, recorded, rfl,
    cappedDamage_of_none failed, rfl⟩
  intro answer member
  rcases List.mem_append.mp member with member | member
  · exact quiet answer member
  · exact quietBetween answer member

section Failed

variable {execution : ExecutionRequest} {battleDamage : BattleDamageResult}
  {before records : List (Answer signature)} {found : Except Failure (Option PuzzleBenchmark)}
  {hash : BattleHash}

theorem findSome?_benchmarkOf {past : List (Answer signature)}
    (none : ∀ answer ∈ past, ∀ puzzleId language, answer.cmd ≠ .findBenchmark puzzleId language) :
    past.findSome? benchmarkOf = .none := by
  rw [List.findSome?_eq_none_iff]
  rintro ⟨cmd, _⟩ member
  cases cmd with
  | findBenchmark puzzleId language => exact absurd rfl (none _ member puzzleId language)
  | _ => rfl

theorem Failed.benchmarkRead_eq (call : Failed execution battleDamage before found hash records) :
    benchmarkRead (before ++ ⟨.findBenchmark execution.puzzleId execution.language, found⟩ ::
      ⟨.hGetAll execution.roomId, hash⟩ :: records) =
    benchmarkOf ⟨.findBenchmark execution.puzzleId execution.language, found⟩ := by
  have noneBefore : before.findSome? benchmarkOf = none := by
    refine findSome?_benchmarkOf fun answer member puzzleId language reads => ?_
    have quiet := call.quiet answer member
    rw [reads] at quiet
    exact quiet
  have noneAfter : records.findSome? benchmarkOf = none := by
    refine findSome?_benchmarkOf fun answer member puzzleId language reads => ?_
    have recorded := call.recorded answer member
    rw [reads] at recorded
    exact recorded
  rw [benchmarkRead, List.findSome?_append, noneBefore, Option.none_or, List.findSome?_cons]
  cases benchmarkOf ⟨.findBenchmark execution.puzzleId execution.language, found⟩ with
  | none => exact noneAfter
  | some => rfl

theorem Failed.harmless (call : Failed execution battleDamage before found hash records)
    (nothing : battleDamage.damage = 0) :
    Harmless execution.userId (before ++
      ⟨.findBenchmark execution.puzzleId execution.language, found⟩ ::
        ⟨.hGetAll execution.roomId, hash⟩ :: records) battleDamage := by
  have told {answer : Answer signature} (loud : ¬answer.cmd.Preliminary)
      (unread : ∀ puzzleId language, answer.cmd ≠ .findBenchmark puzzleId language)
      (member : answer ∈ before ++
        ⟨.findBenchmark execution.puzzleId execution.language, found⟩ ::
          ⟨.hGetAll execution.roomId, hash⟩ :: records) :
      answer.cmd.Records execution battleDamage := by
    simp only [List.mem_append, List.mem_cons] at member
    rcases member with member | rfl | rfl | member
    · exact absurd (call.quiet answer member) loud
    · exact absurd rfl (unread _ _)
    · exact absurd trivial loud
    · exact call.recorded answer member
  refine ⟨nothing, ?_, ?_, ?_⟩
  · intro row reply member
    have dealt : row.damageDealt = battleDamage.damage := told id (by simp) member
    rw [dealt, nothing]
  · intro event _ reply member
    have same : event = battleDamage := told id (by simp) member
    rw [same, nothing]
  · intro roomId _ hp _ member
    have written : roomId = execution.roomId ∧ hp = battleDamage.opponentHp :=
      told id (by simp) member
    refine ⟨hash, by simp [written.1], ?_⟩
    rw [written.2, call.opponentHp, nothing, sub_zero]

end Failed

/--
Whatever happens around it, a call whose submission passes no test does no damage exactly if the
benchmark that it has read is not above the average runtime.
-/
theorem no_free_damage_iff {securityErrors : String → String → List String}
    {execution : ExecutionRequest} {past : List (Answer signature)}
    {battleDamage : BattleDamageResult}
    (yields : (executeCode securityErrors execution).Yields past (.ok battleDamage))
    (failed : battleDamage.executionResult.passed = 0) :
    Harmless execution.userId past battleDamage ↔
      ∀ benchmark ∈ benchmarkRead past, benchmark.p50RuntimeMs ≤
        averageRuntime battleDamage.executionResult.testCaseResults := by
  rcases failed_of_yields yields failed with ⟨_, found, _, _, rfl, call⟩
  have nothing_iff : battleDamage.damage = 0 ↔ ¬Efficient battleDamage.executionResult.runtimeMs
      (benchmarkOf ⟨.findBenchmark execution.puzzleId execution.language, found⟩) := by
    rw [call.damage]
    exact bonus_eq_zero_iff (by norm_num)
  rw [call.benchmarkRead_eq, ← call.runtime]
  constructor
  · intro harmless benchmark stored
    by_contra faster
    exact nothing_iff.mp harmless.reported ⟨benchmark, stored, not_le.mp faster⟩
  · intro slow
    apply call.harmless
    rw [nothing_iff]
    rintro ⟨benchmark, stored, faster⟩
    exact absurd (slow benchmark stored) (not_le.mpr faster)

/-- A submission of the sample puzzle while Judge0 answers no request. -/
def unjudged : Submission where
  execution := ⟨"", "python", "sum", "ann", "room", none⟩
  choices := fun _ => { solvedAt 0 with judge0 := ⟨.error .other, .error .other, .error .other⟩ }

def benchmarkedStore (p50RuntimeMs : ℚ) : Store :=
  { storeWith namedHash with benchmarks := fun _ => some ⟨p50RuntimeMs, 1⟩ }

def dealsUnearned (damage : ℚ) : Except ExecutionError BattleDamageResult → Bool
  | .ok battleDamage => battleDamage.executionResult.passed = 0 ∧ battleDamage.damage = damage
  | .error _ => false

theorem exists_yields_unjudged {store : Store} {damage : ℚ}
    (deals : dealsUnearned damage (execute (fun _ _ => []) unjudged store).1 = true) :
    ∃ past battleDamage,
      (executeCode (fun _ _ => []) unjudged.execution).Yields past (.ok battleDamage) ∧
      battleDamage.executionResult.passed = 0 ∧ battleDamage.damage = damage := by
  rcases Program.exists_yields_run handle (fun _ store => store) unjudged.choices
    (executeCode (fun _ _ => []) unjudged.execution) store with ⟨past, yields⟩
  rw [execute] at deals
  generalize ((executeCode (fun _ _ => []) unjudged.execution).run handle (fun _ store => store)
    unjudged.choices store).1 = outcome at deals yields
  cases outcome with
  | error => cases deals
  | ok battleDamage => exact ⟨past, battleDamage, yields, of_decide_eq_true deals⟩

theorem unbeatable_benchmark : ∃ past battleDamage,
    (executeCode (fun _ _ => []) unjudged.execution).Yields past (.ok battleDamage) ∧
    battleDamage.executionResult.passed = 0 ∧ battleDamage.damage = 0 ∧
    (Harmless unjudged.execution.userId past battleDamage ↔
      ∀ benchmark ∈ benchmarkRead past, benchmark.p50RuntimeMs ≤
        averageRuntime battleDamage.executionResult.testCaseResults) := by
  rcases exists_yields_unjudged (show dealsUnearned 0 (execute (fun _ _ => []) unjudged
    (benchmarkedStore 0)).1 = true by decide +kernel) with
    ⟨past, battleDamage, yields, failed, dealt⟩
  exact ⟨past, battleDamage, yields, failed, dealt, no_free_damage_iff yields failed⟩

/-- Judge0 answers nothing, and the opponent loses ten hit points. -/
theorem unjudged_submission_hits :
    (∃ past battleDamage,
      (executeCode (fun _ _ => []) unjudged.execution).Yields past (.ok battleDamage) ∧
      battleDamage.executionResult.passed = 0 ∧
      ¬Harmless unjudged.execution.userId past battleDamage) ∧
    (((execute (fun _ _ => []) unjudged (benchmarkedStore 100)).2.rooms "room").fields
      .player2).hp = some 90 := by
  refine ⟨?_, by decide +kernel⟩
  rcases exists_yields_unjudged (show dealsUnearned 10 (execute (fun _ _ => []) unjudged
    (benchmarkedStore 100)).1 = true by decide +kernel) with
    ⟨past, battleDamage, yields, failed, dealt⟩
  refine ⟨past, battleDamage, yields, failed, ?_⟩
  intro harmless
  rw [harmless.reported] at dealt
  revert dealt
  decide +kernel

end CodeClash.Judge
