import CodeClash.Problems.Service
import CodeClash.Spell.Casting

/-!
# Reading stored problems back

`createProblem` stores the test cases of a problem as JSON text. The problem service reads
them back, whatever they are. The battle service and the lookup for hints do not parse the
text: they map over it, which throws, and the error turns into an empty list.
-/

namespace CodeClash.Problems

open Battle (ProblemId RoomId Failure TestCase BattleState)

abbrev Pair := Option Json × Option Json

def pairOf (testCase : Json) : Except Failure Pair := do
  let input ← testCase.get "input"
  let expectedOutput ← testCase.get "expectedOutput"
  return (input, expectedOutput)

def pairsOf (testCases : Json) : Except Failure (List Pair) :=
  match testCases with
  | .array cases => cases.mapM pairOf
  | _ => .error .rejected

def problemDataPairs (id : ProblemId) (rows : List Row) (choice : Battle.Choice)
    (store : Battle.Store) : List Pair :=
  let answered : Battle.Choice :=
    { choice with fails := false, problem := (findRow id rows).map Row.battleProblem }
  let found := (Battle.getProblemData id).run Battle.handle (fun _ store => store)
    (fun _ => answered) store
  found.1.2.map fun testCase =>
    (some (.string testCase.input), some (.string testCase.expectedOutput))

/-- The pairs that `getPuzzleTestCases` finds for the battle in a room when the database
answers. -/
def puzzlePairs (roomId : RoomId) (rows : List Row) (now : ℤ) (random : ℕ)
    (store : Spell.Store) : List Pair :=
  let answered : Spell.Store :=
    { store with testCases := fun id => (findRow id rows).map Row.testCases }
  let found := Spell.alone (fun _ => ⟨now, random, false⟩) (Spell.getPuzzleTestCases roomId)
    answered
  found.1.map fun pair => (some (.string pair.1), some (.string pair.2))

section ReadBack

variable {data : ProblemData} {id : ProblemId} {createdAt : ℤ} {rows : List Row}

theorem findRow_createProblem (fresh : findRow id rows = none) :
    findRow id (createProblem data id createdAt rows).2 = some (data.row id createdAt) := by
  rw [findRow] at fresh
  simp [findRow, createProblem, fresh, ProblemData.row]

theorem parseText_stringify {value : Json} (formed : value.WellFormed) :
    parseText value.stringify = .ok value := by
  rw [parseText, Json.parse_stringify formed]

theorem parseProblem_row (tags : data.tags.WellFormed) (examples : data.examples.WellFormed)
    (testCases : data.testCases.WellFormed) :
    ∃ problem, parseProblem (data.row id createdAt) (some (data.row id createdAt).testCases) =
        .ok problem ∧ problem.testCases = data.testCases := by
  simp only [parseProblem, ProblemData.row, parseTestCases, parseText_stringify tags,
    parseText_stringify examples, parseText_stringify testCases]
  exact ⟨_, rfl, rfl⟩

theorem getProblemById_createProblem (tags : data.tags.WellFormed)
    (examples : data.examples.WellFormed) (testCases : data.testCases.WellFormed)
    (fresh : findRow id rows = none) :
    ∃ problem, getProblemById id (createProblem data id createdAt rows).2 = .ok (some problem) ∧
      problem.testCases = data.testCases := by
  rcases @parseProblem_row data id createdAt tags examples testCases with ⟨problem, parsed, same⟩
  rw [getProblemById, findRow_createProblem fresh]
  simp only [parsed]
  exact ⟨problem, rfl, same⟩

theorem problemDataPairs_createProblem (fresh : findRow id rows = none) (choice : Battle.Choice)
    (store : Battle.Store) :
    problemDataPairs id (createProblem data id createdAt rows).2 choice store = [] := by
  simp [problemDataPairs, findRow_createProblem fresh, Battle.getProblemData, Async.Program.run,
    Battle.handle, Battle.answer, Row.battleProblem, ProblemData.row]

theorem puzzlePairs_createProblem {roomId : RoomId} {store : Spell.Store} {battle : BattleState}
    (fresh : findRow id rows = none) (stored : store.battles roomId = some battle)
    (playsFor : battle.problemId = id) (now : ℤ) (random : ℕ) :
    puzzlePairs roomId (createProblem data id createdAt rows).2 now random store = [] := by
  simp [puzzlePairs, Spell.getPuzzleTestCases, Spell.handle, Spell.answer, stored, playsFor,
    findRow_createProblem fresh, ProblemData.row, Spell.puzzleTestCases]

theorem pairsOf_objects (objects : List (List (String × Json))) :
    ∃ pairs, pairsOf (.array (objects.map .object)) = .ok pairs ∧
      pairs.length = objects.length := by
  simp only [pairsOf]
  induction objects with
  | nil => exact ⟨[], rfl, rfl⟩
  | cons _ _ ih =>
    rcases ih with ⟨_, found, length⟩
    simp only [List.map_cons, List.mapM_cons, found]
    exact ⟨_, rfl, by simp [length]⟩

theorem pairsOf_eq_nil_iff {objects : List (List (String × Json))} :
    pairsOf (.array (objects.map .object)) = .ok [] ↔ objects = [] := by
  rcases pairsOf_objects objects with ⟨_, found, length⟩
  rw [found, Except.ok.injEq, ← List.length_eq_zero_iff, length, List.length_eq_zero_iff]

/-- All three readers recover the pairs of the test cases that were given to
`createProblem`. -/
structure ReadBackEverywhere (data : ProblemData) (id : ProblemId) (rows : List Row)
    (battlePairs hintPairs : List Pair) : Prop where
  service : ∃ problem, getProblemById id rows = .ok (some problem) ∧
    pairsOf problem.testCases = pairsOf data.testCases
  battle : pairsOf data.testCases = .ok battlePairs
  hints : pairsOf data.testCases = .ok hintPairs

/--
After a problem whose test cases are a list of objects is stored, the three readers recover
its pairs exactly if the list is empty. The database answers, and the room has any battle
with the problem.
-/
theorem read_back_iff_empty {objects : List (List (String × Json))} {roomId : RoomId}
    {spells : Spell.Store} {battle : BattleState}
    (isList : data.testCases = .array (objects.map .object)) (tags : data.tags.WellFormed)
    (examples : data.examples.WellFormed) (testCases : data.testCases.WellFormed)
    (fresh : findRow id rows = none) (stored : spells.battles roomId = some battle)
    (playsFor : battle.problemId = id) (choice : Battle.Choice) (store : Battle.Store) (now : ℤ)
    (random : ℕ) :
    ReadBackEverywhere data id (createProblem data id createdAt rows).2
        (problemDataPairs id (createProblem data id createdAt rows).2 choice store)
        (puzzlePairs roomId (createProblem data id createdAt rows).2 now random spells) ↔
      objects = [] := by
  rw [problemDataPairs_createProblem fresh, puzzlePairs_createProblem fresh stored playsFor]
  constructor
  · intro everywhere
    have empty := everywhere.battle
    rwa [isList, pairsOf_eq_nil_iff] at empty
  · intro empty
    have noPairs : pairsOf data.testCases = .ok [] := by
      rw [isList, pairsOf_eq_nil_iff]
      exact empty
    rcases @getProblemById_createProblem data id createdAt rows tags examples testCases fresh with
      ⟨problem, found, same⟩
    exact ⟨⟨problem, found, by rw [same]⟩, noPairs, noPairs⟩

end ReadBack

def addition (objects : List (List (String × Json))) : ProblemData where
  title := "Addition"
  description := "Add two numbers."
  difficulty := "easy"
  timeLimitMs := 300000
  memoryLimitMb := 256
  p50RuntimeMs := none
  tags := .array []
  examples := .array []
  testCases := .array (objects.map .object)

def oneAndTwo : List (String × Json) :=
  [("input", .string "1 2"), ("expectedOutput", .string "3"), ("isHidden", .bool false)]

def room : Spell.Store :=
  { Spell.emptyStore with
    battles := fun _ =>
      some { player1Id := "a", player2Id := "b", problemId := "p", hp1 := 500, hp2 := 500
             startTimestamp := 0, status := .active, sub1Count := 0, sub2Count := 0
             matchId := none, lastHeartbeat := none } }

/-- A single test case is not read back by the battle service. -/
theorem one_case_is_lost :
    ¬ReadBackEverywhere (addition [oneAndTwo]) "p"
      (createProblem (addition [oneAndTwo]) "p" 0 []).2
      (problemDataPairs "p" (createProblem (addition [oneAndTwo]) "p" 0 []).2 default
        (Battle.freshServer fun _ => none).store)
      (puzzlePairs "r" (createProblem (addition [oneAndTwo]) "p" 0 []).2 0 0 room) := by
  intro everywhere
  have empty := everywhere.battle
  rw [problemDataPairs_createProblem rfl] at empty
  cases empty

theorem no_cases_are_read_back :
    ReadBackEverywhere (addition []) "p" (createProblem (addition []) "p" 0 []).2
      (problemDataPairs "p" (createProblem (addition []) "p" 0 []).2 default
        (Battle.freshServer fun _ => none).store)
      (puzzlePairs "r" (createProblem (addition []) "p" 0 []).2 0 0 room) :=
  (@read_back_iff_empty (addition []) "p" 0 [] [] "r" room _ rfl trivial trivial trivial rfl rfl
    rfl _ _ _ _).mpr rfl

end CodeClash.Problems
