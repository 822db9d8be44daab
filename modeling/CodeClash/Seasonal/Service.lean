import CodeClash.Async.Services
import CodeClash.Keys.Table
import Mathlib.Algebra.Order.Round
import Mathlib.Data.List.Sort
import Mathlib.Data.Rat.Floor

/-!
# The seasonal system

The snapshots of ratings and the reset of a season in `apps/api/src/services/seasonalSystem.ts`. The
snapshots are taken of the column `seasonElo`, the reset writes the column `seasonalElo`. Entries of
a list are kept as values, and a battle that is `null` is as good as none. A list may expire at any
time.
-/

namespace CodeClash.Seasonal

open Async Keys

abbrev UserId := String
abbrev SeasonId := String
abbrev BattleId := String

structure User where
  seasonElo : ℤ
  seasonalElo : ℤ
deriving DecidableEq, Repr

structure Entry where
  elo : ℤ
  timestamp : ℤ
  battleId : Option BattleId
deriving DecidableEq, Repr

structure EloHistory extends Entry where
  userId : UserId
  seasonId : SeasonId
deriving DecidableEq, Repr

inductive Failure where
  | rejected
deriving DecidableEq, Repr

inductive Sense where
  | now

abbrev Sense.Sensed : Sense → Type
  | .now => ℤ

inductive Cmd where
  | findSeasonElo (userId : UserId)
  | createHistory (row : EloHistory)
  | findHistory (userId : UserId) (seasonId : SeasonId)
  | findSeasonalElos
  | updateSeasonalElo (userId : UserId) (seasonalElo : ℤ)
  | lPush (key : String) (entry : Entry)
  | lTrim (key : String) (start stop : ℕ)
  | lRange (key : String)
  | expire (key : String) (seconds : ℕ)

abbrev Cmd.Value : Cmd → Type
  | .findSeasonElo _ => Option ℤ
  | .findHistory _ _ => List EloHistory
  | .findSeasonalElos => List (UserId × ℤ)
  | .lRange _ => List Entry
  | _ => Unit

abbrev services : Services where
  Sense := Sense
  Sensed := Sense.Sensed
  Cmd := Cmd
  Value := Cmd.Value
  Failure := Failure

abbrev Prog (α : Type) := services.Prog α

abbrev call (cmd : Cmd) : Prog cmd.Value := @Services.call services cmd

abbrev now : Prog ℤ := Throwing.ask (@Services.sense services .now)

def historyKey (userId : UserId) (seasonId : SeasonId) : String :=
  "elo_history:" ++ userId ++ ":" ++ seasonId

/-- The `try` block of `recordEloSnapshot`. -/
def takeSnapshot (seasonId : SeasonId) (userId : UserId) (battleId : Option BattleId) :
    Prog Unit := do
  let user ← call (.findSeasonElo userId)
  match user with
  | none => return ()
  | some seasonElo =>
    let createdAt ← now
    call (.createHistory ⟨⟨seasonElo, createdAt, battleId⟩, userId, seasonId⟩)
    let cachedAt ← now
    call (.lPush (historyKey userId seasonId) ⟨seasonElo, cachedAt, battleId⟩)
    call (.lTrim (historyKey userId seasonId) 0 99)
    call (.expire (historyKey userId seasonId) (86400 * 30))

def recordEloSnapshot (currentSeason : Option SeasonId) (userId : UserId)
    (battleId : Option BattleId) : Program services.signature Unit :=
  match currentSeason with
  | none => return ()
  | some seasonId => Services.caught () (takeSnapshot seasonId userId battleId)

def cacheResults (key : String) : List Entry → Prog Unit
  | [] => return ()
  | entry :: history => do
      call (.lPush key entry)
      cacheResults key history

/-- The `try` block of `getEloHistory`. -/
def readHistory (seasonId : SeasonId) (userId : UserId) : Prog (List Entry) := do
  let cachedHistory ← call (.lRange (historyKey userId seasonId))
  if cachedHistory.length > 0 then
    return cachedHistory
  else
    let history ← call (.findHistory userId seasonId)
    cacheResults (historyKey userId seasonId) (history.map EloHistory.toEntry)
    call (.expire (historyKey userId seasonId) (86400 * 30))
    return history.map EloHistory.toEntry

def getEloHistory (currentSeason : Option SeasonId) (userId : UserId) :
    Program services.signature (List Entry) :=
  match currentSeason with
  | none => return []
  | some seasonId => Services.caught [] (readHistory seasonId userId)

def newSeasonalElo (seasonalElo : ℤ) : ℤ := round ((seasonalElo : ℚ) * (7 / 10) + 1200)

/-- The loop of `resetSeasonalElo`. -/
def resetUsers : List (UserId × ℤ) → Prog Unit
  | [] => return ()
  | (userId, seasonalElo) :: users => do
      call (.updateSeasonalElo userId (newSeasonalElo seasonalElo))
      resetUsers users

def resetSeasonalElo : Program services.signature Unit :=
  Services.caught () do
    let users ← call .findSeasonalElos
    resetUsers users

structure Store where
  users : Table UserId User
  eloHistory : List EloHistory
  lists : String → List Entry

structure Choice where
  now : ℤ
  fails : Bool
deriving DecidableEq, Repr

def Store.history (store : Store) (userId : UserId) (seasonId : SeasonId) : List EloHistory :=
  (store.eloHistory.filter fun row => row.userId = userId && row.seasonId = seasonId).insertionSort
    fun first second => first.timestamp ≤ second.timestamp

def Store.setList (store : Store) (key : String) (entries : List Entry) : Store :=
  { store with lists := Function.update store.lists key entries }

def Store.setSeasonalElo (store : Store) (userId : UserId) (seasonalElo : ℤ) : Store :=
  { store with
    users := store.users.modify userId fun user => { user with seasonalElo := seasonalElo } }

def Cmd.read (store : Store) : (cmd : Cmd) → cmd.Value
  | .findSeasonElo userId => (store.users.find userId).map User.seasonElo
  | .findHistory userId seasonId => store.history userId seasonId
  | .findSeasonalElos =>
    (store.users.findMany fun _ => true).map fun (userId, user) => (userId, user.seasonalElo)
  | .lRange key => store.lists key
  | .createHistory _ => ()
  | .updateSeasonalElo _ _ => ()
  | .lPush _ _ => ()
  | .lTrim _ _ _ => ()
  | .expire _ _ => ()

def Cmd.write (store : Store) : Cmd → Store
  | .createHistory row => { store with eloHistory := store.eloHistory ++ [row] }
  | .updateSeasonalElo userId seasonalElo => store.setSeasonalElo userId seasonalElo
  | .lPush key entry => store.setList key (entry :: store.lists key)
  | .lTrim key start stop => store.setList key (((store.lists key).take (stop + 1)).drop start)
  | _ => store

def backend : services.Backend Store Choice where
  sensed
    | .now, choice => choice.now
  failure? _ choice := if choice.fails then some .rejected else none
  value cmd _ store := cmd.read store
  write cmd _ store := cmd.write store

@[simp]
theorem backend_sensed (choice : Choice) : backend.sensed .now choice = choice.now := rfl

@[simp]
theorem backend_value (cmd : Cmd) (choice : Choice) (store : Store) :
    backend.value cmd choice store = cmd.read store := rfl

@[simp]
theorem backend_write (cmd : Cmd) (choice : Choice) (store : Store) :
    backend.write cmd choice store = cmd.write store := rfl

end CodeClash.Seasonal
