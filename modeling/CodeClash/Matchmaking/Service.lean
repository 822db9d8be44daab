import CodeClash.Matchmaking.Commands
import CodeClash.Pairing.Greedy
import Mathlib.Data.List.Sort

/-!
# The matchmaking service

The asynchronous functions of `server/src/services/matchmaking.ts` that work on the queue. What
`createMatch` leaves behind once the room is stored, its countdown and its start, belongs to the
battle service. The inner loop of a tick stops at the first partner, so it is `Pairing.partner?`.
-/

namespace CodeClash.Matchmaking

open Async Program
open Battle (UserId RoomId ProblemId Problem User Failure BattleState)

abbrev request (cmd : Cmd) : Prog cmd.Reply := @Program.perform signature cmd

def await {α β : Type} (program : Prog (Except Failure α))
    (next : α → Prog (Except Failure β)) : Prog (Except Failure β) := do
  match ← program with
  | .error failure => return .error failure
  | .ok value => next value

def addToQueue (userId : UserId) (elo : ℤ) : Prog (Except Failure Unit) := do
  if ← request (.join userId elo) then request (.saveQueueKey userId) else return .ok ()

def removeFromQueue (userId : UserId) : Prog (Except Failure Unit) := do
  if ← request (.leave userId) then request (.delQueueKey userId) else return .ok ()

def difficultyFor (avgElo : ℚ) : Difficulty :=
  if avgElo ≥ 1400 then .hard else if avgElo ≥ 1200 then .medium else .easy

def getRandomProblem : Prog (Except Failure (Option Problem)) :=
  await (request (.findProblems none)) fun problems => do
    if problems.isEmpty then return .ok none
    else
      let index ← request (.random problems.length)
      return .ok problems[index]?

def selectProblemForElo (avgElo : ℚ) : Prog (Except Failure (Option Problem)) := do
  match ← request (.findProblems (some (difficultyFor avgElo))) with
  | .error _ => getRandomProblem
  | .ok problems =>
    if problems.isEmpty then getRandomProblem
    else
      let index ← request (.random problems.length)
      return .ok problems[index]?

/-- `user?.username || "Player_" + the first four characters of the id`. -/
def playerName (user : Option User) (userId : UserId) : String :=
  Battle.usernameOr ("Player_" ++ String.ofList (userId.toList.take 4)) user

def avgElo (p1 p2 : QueueEntry) : ℚ := ((p1.elo + p2.elo : ℤ) : ℚ) / 2

/-- From the selected problem on: names, the match record, the room and the
notifications. Only the creation of the match record is caught. -/
def openRoom (p1 p2 : QueueEntry) (roomId : RoomId) :
    Option Problem → Prog (Except Failure Unit)
  | none => return .ok ()
  | some problem => do
      let user1 ← request (.findUser p1.userId)
      let user2 ← request (.findUser p2.userId)
      match user1, user2 with
      | .ok user1, .ok user2 =>
        let record ← request (.createMatchRecord p1.userId p2.userId problem.id)
        let now ← request .now
        await (request (.storeBattle roomId
          (Battle.openingState p1.userId p2.userId problem now record.toOption) p1 p2))
          fun _ => do
            request (.emit p1.userId (.matchFound roomId (playerName user2 p2.userId) p2.elo
              (Battle.timeLimitSec problem) Battle.initialHp Battle.initialHp))
            request (.emit p2.userId (.matchFound roomId (playerName user1 p1.userId) p1.elo
              (Battle.timeLimitSec problem) Battle.initialHp Battle.initialHp))
            return .ok ()
      | _, _ => return .error .rejected

def createMatch (p1 p2 : QueueEntry) : Prog (Except Failure Unit) := do
  request (.dequeue p1 p2)
  await (request (.delQueueKey p1.userId)) fun _ =>
    await (request (.delQueueKey p2.userId)) fun _ => do
      let roomId ← request .nanoid
      await (selectProblemForElo (avgElo p1 p2)) (openRoom p1 p2 roomId)

def WithinWindows (windows : QueueEntry → ℤ) (p q : QueueEntry) : Prop :=
  |p.elo - q.elo| ≤ min (windows p) (windows q)

instance (windows : QueueEntry → ℤ) : DecidableRel (WithinWindows windows) :=
  fun _ _ => inferInstanceAs (Decidable (_ ≤ _))

def JoinedNoLater (p q : QueueEntry) : Prop := p.joinedAt ≤ q.joinedAt

instance : DecidableRel JoinedNoLater := fun _ _ => inferInstanceAs (Decidable (_ ≤ _))

/-- The queue sorted by join time. Like `Array.prototype.sort`, insertion sort is stable. -/
def joinOrder (queue : Queue) : List QueueEntry := queue.entries.insertionSort JoinedNoLater

def notifyPositions (now : ℤ) (total : ℕ) : ℕ → List QueueEntry → Prog Unit
  | _, [] => return ()
  | index, player :: later => do
      request (.emit player.userId (.queuePosition (index + 1) total
        ((now - player.joinedAt) / 1000) (max 0 (((total : ℤ) - index) * 3))))
      notifyPositions now total (index + 1) later

/-- The nested loops of `tick`. A rejection ends the tick. -/
def matchLoop (matched : List UserId) : List QueueEntry → Prog (Except Failure Unit)
  | [] => return .ok ()
  | player :: later =>
    if player.userId ∈ matched then matchLoop matched later
    else do
      let windows ← request .readWindows
      match Pairing.partner? QueueEntry.userId (WithinWindows fun entry => windows entry.id)
          matched player later with
      | none => matchLoop matched later
      | some other =>
        await (createMatch player other) fun _ =>
          matchLoop (player.userId :: other.userId :: matched) later

def matchPlayers (now : ℤ) (players : List QueueEntry) : Prog (Except Failure Unit) := do
  notifyPositions now players.length 0 players
  matchLoop [] players

def tick : Prog (Except Failure Unit) := do
  let (now, queue) ← request .snapshot
  matchPlayers now (joinOrder queue)

/-- Commands that neither touch the queue or the windows nor create a battle. -/
def Cmd.Neutral : Cmd → Prop
  | .join _ _ | .leave _ | .snapshot | .dequeue _ _ | .storeBattle _ _ _ _ => False
  | _ => True

section Programs

variable {α β Phase : Type}

variable {program : Prog (Except Failure α)} {next : α → Prog (Except Failure β)}

theorem await_uses {allowed : Cmd → Prop} (first : program.Uses allowed)
    (rest : ∀ value, (next value).Uses allowed) : (await program next).Uses allowed := by
  apply uses_bind first
  intro value
  cases value with
  | error => trivial
  | ok value => exact rest value

theorem await_obeys {protocol : Protocol signature Phase} {post : Phase → Except Failure β → Prop}
    {phase : Phase} (first : program.Obeys protocol (fun reached value =>
      (∀ failure, value = .error failure → post reached (.error failure)) ∧
        ∀ result, value = .ok result → (next result).Obeys protocol post reached) phase) :
    (await program next).Obeys protocol post phase := by
  apply obeys_bind.mpr
  apply first.mono
  rintro _ value ⟨rejected, goesOn⟩
  cases value with
  | error failure => exact rejected failure rfl
  | ok value => exact goesOn value rfl

theorem getRandomProblem_neutral : getRandomProblem.Uses Cmd.Neutral := by
  apply await_uses (uses_perform (by trivial))
  intro _
  split
  · trivial
  · exact uses_perform_bind (by trivial) fun _ => trivial

theorem selectProblemForElo_neutral (avgElo : ℚ) :
    (selectProblemForElo avgElo).Uses Cmd.Neutral := by
  apply uses_perform_bind (by trivial)
  intro found
  cases found with
  | error => exact getRandomProblem_neutral
  | ok =>
    simp only
    split
    · exact getRandomProblem_neutral
    · exact uses_perform_bind (by trivial) fun _ => trivial

theorem notifyPositions_neutral (now : ℤ) (total index : ℕ) (players : List QueueEntry) :
    (notifyPositions now total index players).Uses Cmd.Neutral := by
  induction players generalizing index with
  | nil => trivial
  | cons _ _ ih =>
    apply uses_perform_bind (by trivial)
    intro _
    exact ih (index + 1)

end Programs

inductive Call where
  | addToQueue (userId : UserId) (elo : ℤ)
  | removeFromQueue (userId : UserId)
  | tick
deriving DecidableEq, Repr

def body (_self : ℕ) : Call → Prog Unit
  | .addToQueue userId elo => do
      let _ ← addToQueue userId elo
      return ()
  | .removeFromQueue userId => do
      let _ ← removeFromQueue userId
      return ()
  | .tick => do
      let _ ← tick
      return ()

inductive Environment where
  | connected (userId : UserId)
  | disconnected (userId : UserId)
deriving DecidableEq, Repr

def happen : Environment → Store → Option Store
  | .connected userId, store =>
    some { store with sockets := Function.update store.sockets userId true }
  | .disconnected userId, store =>
    some { store with sockets := Function.update store.sockets userId false }

def server : Server signature Store Call Choice Environment where
  handle := handle
  accept _ store := some store
  body := body
  happen := happen

abbrev ServerState := State signature Store Call
abbrev ServerAction := Action Call Choice Environment

def freshServer : ServerState where
  store :=
    { queue := .empty, eloWindows := fun _ => 0, sockets := fun _ => false
      battles := fun _ => none, outbox := [], log := [] }
  processes := fun _ => none

instance : Inhabited Choice where
  default :=
    { now := 0, roomId := "battle_0", random := 0, queueKeyFails := fun _ => false
      storeFails := false, problems := fun _ => .ok [Battle.sampleProblem]
      user := fun _ => .ok none, matchRecord := .ok "m" }

end CodeClash.Matchmaking
