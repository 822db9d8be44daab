import CodeClash.Async.Services
import CodeClash.Keys.Ranked
import CodeClash.Keys.Volatile
import Mathlib.Algebra.Order.Floor.Ring
import Mathlib.Data.Rat.Floor
import Mathlib.Data.String.Basic

/-!
# The rate limits

The service `services/judge/src/services/rateLimitService.ts`. The calls of a user are the members
of a sorted set, with their times as scores. A command may fail, and then the call is allowed. A
time that is not a number is `none`.
-/

namespace CodeClash.Judge

open Async Keys

structure RateLimit where
  allowed : Bool
  remaining : ℤ
  resetTime : Option ℤ
deriving DecidableEq, Repr

namespace RateLimit

inductive Failure where
  | rejected
deriving DecidableEq, Repr

inductive Sense where
  | now
  | random

abbrev Sense.Sensed : Sense → Type
  | .now => ℤ
  | .random => String

inductive Cmd where
  | zRemRangeByScore (key : String) (lowest highest : ℤ)
  | zCard (key : String)
  | zRange (key : String) (start stop : ℕ)
  | zAdd (key : String) (score : ℤ) (value : String)
  | expire (key : String) (seconds : ℤ)

abbrev Cmd.Value : Cmd → Type
  | .zCard _ => ℕ
  | .zRange _ _ _ => List String
  | _ => Unit

abbrev services : Services where
  Sense := Sense
  Sensed := Sense.Sensed
  Cmd := Cmd
  Value := Cmd.Value
  Failure := Failure

abbrev Prog (α : Type) := services.Prog α

abbrev call (cmd : Cmd) : Prog cmd.Value := @Services.call services cmd

abbrev now : Program services.signature ℤ := @Services.sense services .now

abbrev random : Prog String := Throwing.ask (@Services.sense services .random)

def submissionKey (userId : String) : String := "rate_limit:submission:" ++ userId

def connectionKey (userId : String) : String := "rate_limit:connection:" ++ userId

def generalKey (identifier : String) : String := "rate_limit:general:" ++ identifier

def member (now : ℤ) (random : String) : String := toString now ++ "-" ++ random

def ttl (windowMs : ℤ) : ℤ := ⌈(windowMs : ℚ) / 1000⌉

/-- What is left of the score of a member that `zRange` has returned. The member is a text and has
no field `score`, so `parseInt` returns a number that is none. -/
def parseScore (_member : String) : Option ℤ := none

/-- A submission is denied, with the time at which the oldest one leaves the window. -/
def denySubmission (key : String) (now windowMs : ℤ) : Prog RateLimit := do
  let oldest ← call (.zRange key 0 0)
  match oldest with
  | [] => return ⟨false, 0, some (now + windowMs)⟩
  | first :: _ => return ⟨false, 0, (parseScore first).map (· + windowMs)⟩

def addCall (key : String) (now windowMs : ℤ) : Prog Unit := do
  let random ← random
  call (.zAdd key now (member now random))
  call (.expire key (ttl windowMs))

/-- The `try` block of `checkSubmissionRateLimit`. -/
def limitSubmissions (key : String) (now maxSubmissions windowMs : ℤ) : Prog RateLimit := do
  call (.zRemRangeByScore key 0 (now - windowMs))
  let currentCount ← call (.zCard key)
  if (currentCount : ℤ) ≥ maxSubmissions then denySubmission key now windowMs
  else
    addCall key now windowMs
    return ⟨true, maxSubmissions - currentCount - 1, some (now + windowMs)⟩

def checkSubmissionRateLimit (userId : String) (maxSubmissions windowMs : ℤ) :
    Program services.signature RateLimit := do
  let now ← now
  Services.caught ⟨true, maxSubmissions - 1, some (now + windowMs)⟩
    (limitSubmissions (submissionKey userId) now maxSubmissions windowMs)

/-- The `try` block of the other limits. -/
def limitCalls (key : String) (now maxCalls windowMs : ℤ) : Prog Bool := do
  call (.zRemRangeByScore key 0 (now - windowMs))
  let currentCount ← call (.zCard key)
  if (currentCount : ℤ) ≥ maxCalls then return false
  else
    addCall key now windowMs
    return true

def checkRateLimit (key : String) (maxCalls windowMs : ℤ) : Program services.signature Bool := do
  let now ← now
  Services.caught true (limitCalls key now maxCalls windowMs)

def checkConnectionRateLimit (userId : String) (maxConnections windowMs : ℤ) :
    Program services.signature Bool :=
  checkRateLimit (connectionKey userId) maxConnections windowMs

def checkGeneralRateLimit (identifier : String) (maxRequests windowMs : ℤ) :
    Program services.signature Bool :=
  checkRateLimit (generalKey identifier) maxRequests windowMs

abbrev Store := Volatile String (Ranked String)

structure Choice where
  now : ℤ
  random : String
  fails : Bool
deriving DecidableEq, Repr

def Cmd.read (now : ℤ) (store : Store) : (cmd : Cmd) → cmd.Value
  | .zCard key => Ranked.zCard (store.get now key)
  | .zRange key start stop => Ranked.zRange (store.get now key) start stop
  | .zRemRangeByScore _ _ _ => ()
  | .zAdd _ _ _ => ()
  | .expire _ _ => ()

def Cmd.write (now : ℤ) (store : Store) : Cmd → Store
  | .zRemRangeByScore key lowest highest =>
    store.alter now key (Ranked.zRemRangeByScore lowest highest)
  | .zAdd key score value => store.alter now key (Ranked.zAdd value score)
  | .expire key seconds => store.expire now key (1000 * seconds)
  | _ => store

def backend : services.Backend Store Choice where
  sensed
    | .now, choice => choice.now
    | .random, choice => choice.random
  failure? _ choice := if choice.fails then some .rejected else none
  value cmd choice store := cmd.read choice.now store
  write cmd choice store := cmd.write choice.now store

@[simp]
theorem backend_value (cmd : Cmd) (choice : Choice) (store : Store) :
    backend.value cmd choice store = cmd.read choice.now store := rfl

@[simp]
theorem backend_write (cmd : Cmd) (choice : Choice) (store : Store) :
    backend.write cmd choice store = cmd.write choice.now store := rfl

end RateLimit

end CodeClash.Judge
