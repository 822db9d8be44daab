import CodeClash.Battle.Service
import Mathlib.Data.List.Nodup

/-!
# Commands of the matchmaking service

The queue of `server/src/services/matchmaking.ts`, and every effect of the service as a command.
What the source does between two `await`s on the queue alone is one command. The queue is a `Map` in
insertion order. The field `eloWindow` is shared by all who hold the entry, so it is kept under the
identity of the entry. Of the copies in Redis, which nothing reads, only the outcome of writing or
deleting them is modelled.
-/

namespace CodeClash.Matchmaking

open Async
open Battle (UserId RoomId ProblemId Problem User Failure BattleState)

structure QueueEntry where
  id : ℕ
  userId : UserId
  elo : ℤ
  joinedAt : ℤ
deriving DecidableEq, Repr

def initialEloWindow : ℤ := 150
def eloExpandRate : ℤ := 75
def maxEloWindow : ℤ := 600

/-- The window of an entry at a tick: it grows every ten seconds. -/
def eloWindow (now : ℤ) (entry : QueueEntry) : ℤ :=
  min (initialEloWindow + (now - entry.joinedAt) / 10000 * eloExpandRate) maxEloWindow

/-- The queue, with distinct users and identities below the next one. -/
structure Queue where
  entries : List QueueEntry
  nextId : ℕ
  users_nodup : (entries.map QueueEntry.userId).Nodup
  ids_nodup : (entries.map QueueEntry.id).Nodup
  ids_lt : ∀ entry ∈ entries, entry.id < nextId

namespace Queue

def empty : Queue where
  entries := []
  nextId := 0
  users_nodup := List.nodup_nil
  ids_nodup := List.nodup_nil
  ids_lt _ present := nomatch present

def has (queue : Queue) (userId : UserId) : Bool :=
  queue.entries.any fun entry => entry.userId = userId

def get? (queue : Queue) (userId : UserId) : Option QueueEntry :=
  queue.entries.find? fun entry => entry.userId = userId

def push (queue : Queue) (userId : UserId) (elo joinedAt : ℤ) (absent : queue.has userId = false) :
    Queue where
  entries := queue.entries ++ [⟨queue.nextId, userId, elo, joinedAt⟩]
  nextId := queue.nextId + 1
  users_nodup := by
    rw [List.map_append, List.nodup_append_comm]
    refine List.nodup_cons.mpr ⟨?_, queue.users_nodup⟩
    intro present
    rcases List.mem_map.mp present with ⟨entry, queued, same⟩
    simp only [has, List.any_eq_false, decide_eq_true_eq] at absent
    exact absent entry queued same
  ids_nodup := by
    rw [List.map_append, List.nodup_append_comm]
    refine List.nodup_cons.mpr ⟨?_, queue.ids_nodup⟩
    intro present
    rcases List.mem_map.mp present with ⟨entry, queued, same⟩
    exact absurd same (queue.ids_lt entry queued).ne
  ids_lt entry present := by
    rcases List.mem_append.mp present with queued | new
    · exact (queue.ids_lt entry queued).trans (Nat.lt_succ_self _)
    · rw [List.mem_singleton.mp new]
      exact Nat.lt_succ_self _

def delete (queue : Queue) (userId : UserId) : Queue where
  entries := queue.entries.filter fun entry => entry.userId ≠ userId
  nextId := queue.nextId
  users_nodup := queue.users_nodup.sublist (List.filter_sublist.map _)
  ids_nodup := queue.ids_nodup.sublist (List.filter_sublist.map _)
  ids_lt entry present := queue.ids_lt entry (List.mem_of_mem_filter present)

variable {queue : Queue} {first second : QueueEntry}

theorem mem_delete {userId : UserId} {entry : QueueEntry} :
    entry ∈ (queue.delete userId).entries ↔ entry ∈ queue.entries ∧ entry.userId ≠ userId := by
  simp [delete, List.mem_filter]

theorem eq_of_userId (firstQueued : first ∈ queue.entries) (secondQueued : second ∈ queue.entries)
    (same : first.userId = second.userId) : first = second :=
  List.inj_on_of_nodup_map queue.users_nodup firstQueued secondQueued same

theorem eq_of_id (firstQueued : first ∈ queue.entries) (secondQueued : second ∈ queue.entries)
    (same : first.id = second.id) : first = second :=
  List.inj_on_of_nodup_map queue.ids_nodup firstQueued secondQueued same

end Queue

inductive Difficulty where
  | easy
  | medium
  | hard
deriving DecidableEq, Repr

inductive Message where
  | queuePosition (position total : ℕ) (waitSeconds estimatedWaitSeconds : ℤ)
  | matchFound (roomId : RoomId) (opponentName : String)
      (opponentElo timeLimitSeconds myHp opponentHp : ℤ)
deriving DecidableEq, Repr

inductive Cmd where
  | now
  | join (userId : UserId) (elo : ℤ)
  | saveQueueKey (userId : UserId)
  | leave (userId : UserId)
  | delQueueKey (userId : UserId)
  | snapshot
  | readWindows
  | dequeue (p1 p2 : QueueEntry)
  | nanoid
  | findProblems (difficulty : Option Difficulty)
  | random (bound : ℕ)
  | findUser (userId : UserId)
  | createMatchRecord (p1Id p2Id : UserId) (problemId : ProblemId)
  | storeBattle (roomId : RoomId) (state : BattleState) (p1 p2 : QueueEntry)
  | emit (userId : UserId) (message : Message)
deriving DecidableEq

abbrev Cmd.Reply : Cmd → Type
  | .now => ℤ
  | .join _ _ => Bool
  | .saveQueueKey _ => Except Failure Unit
  | .leave _ => Bool
  | .delQueueKey _ => Except Failure Unit
  | .snapshot => ℤ × Queue
  | .readWindows => ℕ → ℤ
  | .nanoid => RoomId
  | .findProblems _ => Except Failure (List Problem)
  | .random _ => ℕ
  | .findUser _ => Except Failure (Option User)
  | .createMatchRecord _ _ _ => Except Failure String
  | .storeBattle _ _ _ _ => Except Failure Unit
  | _ => Unit

abbrev signature : Signature where
  Cmd := Cmd
  Reply := Cmd.Reply

abbrev Prog (α : Type) := Program signature α

inductive Event where
  | left (entry : ℕ)
  | dequeued (p1 p2 : QueueEntry)
  | created (roomId : RoomId) (state : BattleState) (p1 p2 : QueueEntry)
deriving DecidableEq, Repr

structure Store where
  queue : Queue
  eloWindows : ℕ → ℤ
  sockets : UserId → Bool
  battles : RoomId → Option BattleState
  outbox : List (UserId × Message)
  log : List Event

structure Choice where
  now : ℤ
  roomId : RoomId
  random : ℕ
  queueKeyFails : UserId → Bool
  storeFails : Bool
  problems : Option Difficulty → Except Failure (List Problem)
  user : UserId → Except Failure (Option User)
  matchRecord : Except Failure String

namespace Store

def join (store : Store) (now : ℤ) (userId : UserId) (elo : ℤ) : Bool × Store :=
  if absent : store.queue.has userId = false then
    (true, { store with
      queue := store.queue.push userId elo now absent
      eloWindows := Function.update store.eloWindows store.queue.nextId initialEloWindow })
  else (false, store)

def leave (store : Store) (userId : UserId) : Bool × Store :=
  match store.queue.get? userId with
  | none => (false, store)
  | some entry => (true, { store with
      queue := store.queue.delete userId
      log := .left entry.id :: store.log })

def expandWindows (store : Store) (now : ℤ) : Store :=
  { store with
    eloWindows := fun id =>
      match store.queue.entries.find? fun entry => entry.id = id with
      | some entry => eloWindow now entry
      | none => store.eloWindows id }

def dequeue (store : Store) (p1 p2 : QueueEntry) : Store :=
  { store with
    queue := (store.queue.delete p1.userId).delete p2.userId
    log := .dequeued p1 p2 :: store.log }

def storeBattle (store : Store) (fails : Bool) (roomId : RoomId) (state : BattleState)
    (p1 p2 : QueueEntry) : Except Failure Unit × Store :=
  if fails then (.error .rejected, store)
  else (.ok (), { store with
    battles := Function.update store.battles roomId (some state)
    log := .created roomId state p1 p2 :: store.log })

end Store

def handle (cmd : Cmd) (choice : Choice) (store : Store) : cmd.Reply × Store :=
  match cmd with
  | .now => (choice.now, store)
  | .join userId elo => store.join choice.now userId elo
  | .saveQueueKey userId => (Battle.answer (choice.queueKeyFails userId) (), store)
  | .leave userId => store.leave userId
  | .delQueueKey userId => (Battle.answer (choice.queueKeyFails userId) (), store)
  | .snapshot => ((choice.now, store.queue), store.expandWindows choice.now)
  | .readWindows => (store.eloWindows, store)
  | .dequeue p1 p2 => ((), store.dequeue p1 p2)
  | .nanoid => (choice.roomId, store)
  | .findProblems difficulty => (choice.problems difficulty, store)
  | .random bound => (choice.random % bound, store)
  | .findUser userId => (choice.user userId, store)
  | .createMatchRecord _ _ _ => (choice.matchRecord, store)
  | .storeBattle roomId state p1 p2 => store.storeBattle choice.storeFails roomId state p1 p2
  | .emit userId message =>
    if store.sockets userId then
      ((), { store with outbox := (userId, message) :: store.outbox })
    else ((), store)

end CodeClash.Matchmaking
