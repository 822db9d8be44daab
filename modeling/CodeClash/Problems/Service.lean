import CodeClash.Battle.Service
import CodeClash.Json.Text
import CodeClash.Spell.Service

/-!
# The problem service

The functions of `server/src/services/problemService.ts` that write a problem and read it by its id,
as functions of the rows of the problem table. Text that is no JSON rejects the call. The problem
service takes a string or an array for `testCases`, the battle service an array.
-/

namespace CodeClash

namespace Json

def member (members : List (String × Json)) (name : String) : Option Json :=
  (members.find? fun member => member.1 = name).map Prod.snd

/-- A member that is not a standard property of strings or arrays. Reading a member of
`null` throws. -/
def get (value : Json) (name : String) : Except Battle.Failure (Option Json) :=
  match value with
  | null => .error .rejected
  | object members => .ok (member members name)
  | _ => .ok none

end Json

namespace Problems

open Battle (ProblemId Failure TestCase TestCases)

structure Row where
  id : ProblemId
  title : String
  description : String
  difficulty : String
  timeLimitMs : ℤ
  memoryLimitMb : ℤ
  p50RuntimeMs : ℤ
  tags : String
  examples : String
  testCases : TestCases
  createdAt : ℤ
deriving DecidableEq, Repr

structure Problem where
  id : ProblemId
  title : String
  description : String
  difficulty : String
  timeLimitMs : ℤ
  memoryLimitMb : ℤ
  p50RuntimeMs : ℤ
  tags : Json
  examples : Json
  testCases : Json
  createdAt : ℤ

/-- `JSON.parse` of a column. -/
def parseText (text : String) : Except Failure Json :=
  match Json.parse text with
  | some value => .ok value
  | none => .error .rejected

def caseJson (testCase : TestCase) : Json :=
  .object [("input", .string testCase.input),
    ("expectedOutput", .string testCase.expectedOutput), ("isHidden", .bool testCase.isHidden)]

/-- The `testCases` of a row that may not have been selected. -/
def parseTestCases (testCases : Option TestCases) : Except Failure Json :=
  match testCases with
  | some (.text json) => parseText json
  | some (.array cases) => .ok (.array (cases.map caseJson))
  | none => .ok (.array [])

/-- Parse a row of which all columns are selected but for `testCases`. -/
def parseProblem (row : Row) (testCases : Option TestCases) : Except Failure Problem := do
  let tags ← parseText row.tags
  let examples ← parseText row.examples
  let testCases ← parseTestCases testCases
  return { id := row.id, title := row.title, description := row.description
           difficulty := row.difficulty, timeLimitMs := row.timeLimitMs
           memoryLimitMb := row.memoryLimitMb, p50RuntimeMs := row.p50RuntimeMs
           tags, examples, testCases, createdAt := row.createdAt }

def findRow (id : ProblemId) (rows : List Row) : Option Row := rows.find? fun row => row.id = id

def getProblemById (id : ProblemId) (rows : List Row) : Except Failure (Option Problem) :=
  match findRow id rows with
  | none => .ok none
  | some row => (parseProblem row (some row.testCases)).map some

structure ProblemData where
  title : String
  description : String
  difficulty : String
  timeLimitMs : ℤ
  memoryLimitMb : ℤ
  p50RuntimeMs : Option ℤ
  tags : Json
  examples : Json
  testCases : Json

/-- The row that `createProblem` writes, with the values that the database fills in. -/
def ProblemData.row (data : ProblemData) (id : ProblemId) (createdAt : ℤ) : Row :=
  { id, title := data.title, description := data.description, difficulty := data.difficulty
    timeLimitMs := data.timeLimitMs, memoryLimitMb := data.memoryLimitMb
    p50RuntimeMs := data.p50RuntimeMs.getD 1000
    tags := data.tags.stringify, examples := data.examples.stringify
    testCases := .text data.testCases.stringify, createdAt }

def createProblem (data : ProblemData) (id : ProblemId) (createdAt : ℤ) (rows : List Row) :
    Except Failure Problem × List Row :=
  (parseProblem (data.row id createdAt) (some (data.row id createdAt).testCases),
    rows ++ [data.row id createdAt])

def Row.battleProblem (row : Row) : Battle.Problem :=
  { id := row.id, testCases := row.testCases, timeLimitMs := row.timeLimitMs
    p50RuntimeMs := row.p50RuntimeMs }

end Problems

end CodeClash
