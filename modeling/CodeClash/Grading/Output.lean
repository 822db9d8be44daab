import CodeClash.Battle.State
import CodeClash.Grading.RoundTrip
import CodeClash.Text.Casing

/-!
# The verdict on a test case

`runJavaScript` of `server/src/services/judgeService.ts` runs a submission, turns the result into a
text with `normalizeOutput` and compares it in `outputsMatch`, where the texts are lower-cased as a
whole. A parameter is what the virtual machine leaves behind as `__result` of its context: the
`let __result` of the wrapped code is no property of it, and is read as undefined. Runtimes are left
out.
-/

namespace CodeClash.Grading

open Battle (TestCase)
open Judge (isSpace trim)
open Text

inductive Number where
  | finite (value : Json.Decimal)
  | nan
  | infinite (negative : Bool)

/-- A result. An object that decides itself how it is serialised is given by what `JSON.stringify`
makes of it: an error, nothing or a value. -/
inductive Value where
  | undefined
  | null
  | boolean (value : Bool)
  | number (value : Number)
  | string (value : String)
  | array (elements : List Value)
  | object (members : List (String × Value))
  | special (json : Except String (Option Json))
  | function (source : String)
  | symbol (description : String)
  | bigint (value : ℤ)

namespace Number

/-- `Number.prototype.toString`. -/
def text : Number → String
  | finite value => String.ofList value.text
  | nan => "NaN"
  | infinite false => "Infinity"
  | infinite true => "-Infinity"

def json : Number → Json
  | finite value => .number value
  | _ => .null

end Number

namespace Value

mutual

/-- What `JSON.stringify` prints, or nothing. -/
def json : Value → Except String (Option Json)
  | undefined => .ok none
  | null => .ok (some .null)
  | boolean value => .ok (some (.bool value))
  | number value => .ok (some value.json)
  | string value => .ok (some (.string value))
  | array elements => do return some (.array (← elementsJson elements))
  | object members => do return some (.object (← membersJson members))
  | special json => json
  | function _ => .ok none
  | symbol _ => .ok none
  | bigint _ => .error "Do not know how to serialize a BigInt"

def elementsJson : List Value → Except String (List Json)
  | [] => .ok []
  | element :: elements => do
      let first ← json element
      let others ← elementsJson elements
      return first.getD .null :: others

def membersJson : List (String × Value) → Except String (List (String × Json))
  | [] => .ok []
  | (name, member) :: members => do
      let first ← json member
      let others ← membersJson members
      return (first.map (name, ·)).toList ++ others

end

/-- `JSON.stringify`. -/
def stringify (value : Value) : Except String (Option String) := do
  return (← json value).map Json.stringify

end Value

/-- The text may be `undefined` if the value is an object. -/
def normalizeOutput : Value → Except String (Option String)
  | .undefined => .ok (some "null")
  | .null => .ok (some "null")
  | .boolean value => .ok (some (if value then "true" else "false"))
  | .number value => .ok (some value.text)
  | .string value => .ok (some value)
  | .array elements => (Value.array elements).stringify
  | .object members => (Value.object members).stringify
  | .special json => (Value.special json).stringify
  | .function source => .ok (some source)
  | .symbol description => .ok (some ("Symbol(" ++ description ++ ")"))
  | .bigint value => .ok (some (toString value))

section Casing

variable (isFinal : List Char → List Char → Bool)

def norm (s : String) : List Char :=
  collapse isSpace false (toLowerCase isFinal [] (trim s).toList)

def outputsMatch (output expected : String) : Bool := norm isFinal output = norm isFinal expected

structure JudgeResult where
  passed : Bool
  output : String
  expectedOutput : String
  error : Option String
deriving DecidableEq, Repr

inductive Failure where
  | timeout
  | thrown (message : String)
deriving DecidableEq, Repr

/-- The part of `runJavaScript` that may throw. -/
def verdict (run : Except Failure Value) (expected : String) : Except Failure JudgeResult := do
  let output ← (normalizeOutput (← run)).mapError .thrown
  match output with
  | some output => return ⟨outputsMatch isFinal output expected, output, expected, none⟩
  | none => throw (.thrown "Cannot read properties of undefined (reading 'trim')")

end Casing

def plain (s : String) : List Char := collapse isSpace false (trim s).toList

def isWordChar (c : Char) : Bool := c.isAlphanum || c = '_'

def foldBoolean (word : List Char) : List Char :=
  if word.map Char.toLower = "true".toList ∨ word.map Char.toLower = "false".toList then
    word.map Char.toLower
  else word

def foldBooleans (text : List Char) : List Char := mapWords isWordChar foldBoolean [] text

def Agrees (output expected : String) : Prop :=
  foldBooleans (plain output) = foldBooleans (plain expected)

instance (output expected : String) : Decidable (Agrees output expected) :=
  inferInstanceAs (Decidable (_ = _))

section Casing

variable {isFinal : List Char → List Char → Bool}

end Casing

end CodeClash.Grading
