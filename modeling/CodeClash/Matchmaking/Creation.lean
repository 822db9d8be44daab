import CodeClash.Matchmaking.Consumption
import CodeClash.Matchmaking.Tick

/-!
# What `createMatch` leaves behind

`createMatch` removes two players from the queue before it knows whether it can open a room. Neither
player is lost exactly when all calls but the match record succeed and a problem is found, or when
both players were in a battle anyway.
-/

namespace CodeClash.Matchmaking

open Async Function
open Battle (UserId RoomId ProblemId Problem User Failure BattleState)

def InBattle (userId : UserId) (store : Store) : Prop :=
  ∃ roomId battle, store.battles roomId = some battle ∧ battle.isPlayerInBattle userId = true

/-- The user is a player of a stored battle or still in the queue. -/
def Placed (userId : UserId) (store : Store) : Prop :=
  InBattle userId store ∨ store.queue.has userId = true

/-- Run a program alone, with one outcome for each call it makes. -/
def solo {α : Type} (outcome : Choice) (program : Prog α) (store : Store) : α × Store :=
  program.run handle (fun _ store => store) (fun _ => outcome) store

/-- Some problem is found, of the right difficulty or at random. -/
def FindsProblem (outcome : Choice) (avgElo : ℚ) : Prop :=
  (∃ problem rest, outcome.problems (some (difficultyFor avgElo)) = .ok (problem :: rest)) ∨
    ∃ problem rest, outcome.problems none = .ok (problem :: rest)

/-- Every call that `createMatch` depends on succeeds. The match record is not one. -/
structure Succeeds (outcome : Choice) (p1 p2 : QueueEntry) : Prop where
  queueKey1 : outcome.queueKeyFails p1.userId = false
  queueKey2 : outcome.queueKeyFails p2.userId = false
  problem : FindsProblem outcome (avgElo p1 p2)
  user1 : ∃ user, outcome.user p1.userId = .ok user
  user2 : ∃ user, outcome.user p2.userId = .ok user
  stores : outcome.storeFails = false

section Solo

variable {α β : Type} {outcome : Choice} {store : Store} {p1 p2 : QueueEntry}

theorem solo_bind (program : Prog α) (next : α → Prog β) :
    solo outcome (program >>= next) store =
      solo outcome (next (solo outcome program store).1) (solo outcome program store).2 := by
  rcases Program.run_bind handle program next (fun _ store => store) (fun _ => outcome) store with
    ⟨used, split⟩
  exact split

@[simp]
theorem solo_issue (cmd : Cmd) (next : cmd.Reply → Prog α) :
    solo outcome (.issue cmd next) store =
      solo outcome (next (handle cmd outcome store).1) (handle cmd outcome store).2 := rfl

@[simp]
theorem solo_done (value : α) : solo outcome (.done value) store = (value, store) := rfl

def randomProblem (outcome : Choice) : Except Failure (Option Problem) :=
  match outcome.problems none with
  | .error failure => .error failure
  | .ok [] => .ok none
  | .ok problems => .ok problems[outcome.random % problems.length]?

def selectedProblem (outcome : Choice) (avgElo : ℚ) : Except Failure (Option Problem) :=
  match outcome.problems (some (difficultyFor avgElo)) with
  | .error _ => randomProblem outcome
  | .ok [] => randomProblem outcome
  | .ok problems => .ok problems[outcome.random % problems.length]?

theorem getRandomProblem_solo :
    solo outcome getRandomProblem store = (randomProblem outcome, store) := by
  rcases found : outcome.problems none with failure | (_ | ⟨problem, rest⟩) <;>
    simp [getRandomProblem, await, randomProblem, handle, found]

theorem selectProblemForElo_solo (avgElo : ℚ) :
    solo outcome (selectProblemForElo avgElo) store = (selectedProblem outcome avgElo, store) := by
  rcases found : outcome.problems (some (difficultyFor avgElo)) with
    failure | (_ | ⟨problem, rest⟩) <;>
    simp [selectProblemForElo, selectedProblem, handle, found, getRandomProblem_solo]

theorem getElem?_random (problem : Problem) (rest : List Problem) (random : ℕ) :
    ∃ chosen, (problem :: rest)[random % (problem :: rest).length]? = some chosen :=
  ⟨_, List.getElem?_eq_getElem (Nat.mod_lt _ (by simp))⟩

theorem randomProblem_eq_some_iff :
    (∃ problem, randomProblem outcome = .ok (some problem)) ↔
      ∃ problem rest, outcome.problems none = .ok (problem :: rest) := by
  rw [randomProblem]
  rcases outcome.problems none with _ | (_ | ⟨problem, rest⟩)
  · simp
  · simp
  · rcases getElem?_random problem rest outcome.random with ⟨chosen, found⟩
    simp only [found]
    exact ⟨fun _ => ⟨problem, rest, rfl⟩, fun _ => ⟨chosen, rfl⟩⟩

theorem selectedProblem_eq_some_iff {avgElo : ℚ} :
    (∃ problem, selectedProblem outcome avgElo = .ok (some problem)) ↔
      FindsProblem outcome avgElo := by
  rw [selectedProblem, FindsProblem]
  rcases outcome.problems (some (difficultyFor avgElo)) with _ | (_ | ⟨problem, rest⟩)
  · simp [randomProblem_eq_some_iff]
  · simp [randomProblem_eq_some_iff]
  · rcases getElem?_random problem rest outcome.random with ⟨chosen, found⟩
    simp only [found]
    exact ⟨fun _ => Or.inl ⟨problem, rest, rfl⟩, fun _ => ⟨chosen, rfl⟩⟩

def openedRoom (outcome : Choice) (p1 p2 : QueueEntry) (problem : Problem) : BattleState :=
  Battle.openingState p1.userId p2.userId problem outcome.now outcome.matchRecord.toOption

/-- The two ways `openRoom` can end: the room is stored, or nothing is. -/
inductive RoomCases (outcome : Choice) (p1 p2 : QueueEntry) (roomId : RoomId) (problem : Problem)
    (store after : Store) : Prop where
  | opened (user1 : ∃ user, outcome.user p1.userId = .ok user)
      (user2 : ∃ user, outcome.user p2.userId = .ok user) (stores : outcome.storeFails = false)
      (battles : after.battles =
        update store.battles roomId (some (openedRoom outcome p1 p2 problem)))
      (queue : after.queue = store.queue)
  | failed (fails : ¬Succeeds outcome p1 p2) (battles : after.battles = store.battles)
      (queue : after.queue = store.queue)

theorem openRoom_cases (roomId : RoomId) (problem : Problem) :
    RoomCases outcome p1 p2 roomId problem store
      (solo outcome (openRoom p1 p2 roomId (some problem)) store).2 := by
  cases user1 : outcome.user p1.userId with
  | error =>
    have unchanged : (solo outcome (openRoom p1 p2 roomId (some problem)) store).2 = store := by
      simp [openRoom, handle, user1]
    apply RoomCases.failed
    · intro succeeds
      rcases succeeds.user1 with ⟨user, found⟩
      rw [user1] at found
      cases found
    · rw [unchanged]
    · rw [unchanged]
  | ok name1 =>
    cases user2 : outcome.user p2.userId with
    | error =>
      have unchanged :
          (solo outcome (openRoom p1 p2 roomId (some problem)) store).2 = store := by
        simp [openRoom, handle, user1, user2]
      apply RoomCases.failed
      · intro succeeds
        rcases succeeds.user2 with ⟨_, found⟩
        rw [user2] at found
        cases found
      · rw [unchanged]
      · rw [unchanged]
    | ok name2 =>
      cases fails : outcome.storeFails with
      | true =>
        have unchanged :
            (solo outcome (openRoom p1 p2 roomId (some problem)) store).2 = store := by
          simp [openRoom, await, handle, user1, user2, fails, Store.storeBattle]
        apply RoomCases.failed
        · intro succeeds
          rw [succeeds.stores] at fails
          cases fails
        · rw [unchanged]
        · rw [unchanged]
      | false =>
        have opened : (solo outcome (openRoom p1 p2 roomId (some problem)) store).2.battles =
            update store.battles roomId (some (openedRoom outcome p1 p2 problem)) ∧
              (solo outcome (openRoom p1 p2 roomId (some problem)) store).2.queue =
                store.queue := by
          cases socket1 : store.sockets p1.userId <;>
          cases socket2 : store.sockets p2.userId <;>
          simp [openRoom, await, handle, user1, user2, fails, Store.storeBattle, openedRoom,
            socket1, socket2]
        exact .opened ⟨name1, user1⟩ ⟨name2, user2⟩ fails opened.1 opened.2

/-- The two ways `createMatch` can end. The players are out of the queue either way. -/
inductive CreateCases (outcome : Choice) (p1 p2 : QueueEntry) (store after : Store) : Prop where
  | opened (problem : Problem) (succeeds : Succeeds outcome p1 p2)
      (battles : after.battles = update store.battles outcome.roomId
        (some (openedRoom outcome p1 p2 problem)))
      (queue : after.queue = (store.queue.delete p1.userId).delete p2.userId)
  | failed (fails : ¬Succeeds outcome p1 p2) (battles : after.battles = store.battles)
      (queue : after.queue = (store.queue.delete p1.userId).delete p2.userId)

theorem createMatch_cases (outcome : Choice) (p1 p2 : QueueEntry) (store : Store) :
    CreateCases outcome p1 p2 store (solo outcome (createMatch p1 p2) store).2 := by
  cases key1 : outcome.queueKeyFails p1.userId with
  | true =>
    apply CreateCases.failed
    · intro succeeds
      rw [succeeds.queueKey1] at key1
      cases key1
    · simp [createMatch, await, handle, Battle.answer, key1, Store.dequeue]
    · simp [createMatch, await, handle, Battle.answer, key1, Store.dequeue]
  | false =>
    cases key2 : outcome.queueKeyFails p2.userId with
    | true =>
      apply CreateCases.failed
      · intro succeeds
        rw [succeeds.queueKey2] at key2
        cases key2
      · simp [createMatch, await, handle, Battle.answer, key1, key2, Store.dequeue]
      · simp [createMatch, await, handle, Battle.answer, key1, key2, Store.dequeue]
    | false =>
      have selects : solo outcome (createMatch p1 p2) store =
          solo outcome (await (selectProblemForElo (avgElo p1 p2))
            (openRoom p1 p2 outcome.roomId)) (store.dequeue p1 p2) := by
        simp [createMatch, await, handle, Battle.answer, key1, key2]
      rw [selects, await, solo_bind, selectProblemForElo_solo]
      have found_iff : _ ↔ FindsProblem outcome (avgElo p1 p2) := selectedProblem_eq_some_iff
      cases selected : selectedProblem outcome (avgElo p1 p2) with
      | error =>
        apply CreateCases.failed
        · intro succeeds
          rcases found_iff.mpr succeeds.problem with ⟨problem, found⟩
          rw [selected] at found
          cases found
        · rfl
        · rfl
      | ok problem =>
        cases problem with
        | none =>
          apply CreateCases.failed
          · intro succeeds
            rcases found_iff.mpr succeeds.problem with ⟨problem, found⟩
            rw [selected] at found
            cases found
          · rfl
          · rfl
        | some problem =>
          have found := found_iff.mp ⟨problem, selected⟩
          cases openRoom_cases outcome.roomId problem with
          | opened user1 user2 stores battles queue =>
            exact .opened problem ⟨key1, key2, found, user1, user2, stores⟩ battles queue
          | failed fails battles queue => exact .failed fails battles queue

theorem has_delete_delete (queue : Queue) (first second : UserId) :
    ((queue.delete first).delete second).has first = false ∧
      ((queue.delete first).delete second).has second = false := by
  simp only [Queue.has, List.any_eq_false, Queue.mem_delete, decide_eq_true_eq]
  refine ⟨?_, ?_⟩
  · rintro entry ⟨⟨_, notFirst⟩, _⟩
    exact notFirst
  · rintro _ ⟨_, notSecond⟩
    exact notSecond

theorem openedRoom_players (problem : Problem) :
    (openedRoom outcome p1 p2 problem).isPlayerInBattle p1.userId = true ∧
      (openedRoom outcome p1 p2 problem).isPlayerInBattle p2.userId = true := by
  simp [openedRoom, Battle.openingState, BattleState.initial, BattleState.isPlayerInBattle]

/--
After `createMatch` both players are in a battle or in the queue exactly if all calls it
depends on succeed and a problem is found, or both players already had a battle.
-/
theorem players_placed_iff (outcome : Choice) (p1 p2 : QueueEntry) (store : Store) :
    Placed p1.userId (solo outcome (createMatch p1 p2) store).2 ∧
        Placed p2.userId (solo outcome (createMatch p1 p2) store).2 ↔
      Succeeds outcome p1 p2 ∨ InBattle p1.userId store ∧ InBattle p2.userId store := by
  cases createMatch_cases outcome p1 p2 store with
  | opened problem succeeds battles =>
    have stored : (solo outcome (createMatch p1 p2) store).2.battles outcome.roomId =
        some (openedRoom outcome p1 p2 problem) := by
      rw [battles, update_self]
    refine ⟨fun _ => Or.inl succeeds, fun _ => ⟨?_, ?_⟩⟩
    · exact Or.inl ⟨_, _, stored, (openedRoom_players problem).1⟩
    · exact Or.inl ⟨_, _, stored, (openedRoom_players problem).2⟩
  | failed fails battles queue =>
    have gone := has_delete_delete store.queue p1.userId p2.userId
    rw [← queue] at gone
    simp only [Placed, InBattle, battles, gone, fails, Bool.false_eq_true, or_false, false_or]

/-- Without any problem in the database both players are lost. -/
theorem no_problem_loses_players :
    ¬(Placed "a" (solo { (default : Choice) with problems := fun _ => .ok [] }
          (createMatch ⟨0, "a", 1000, 0⟩ ⟨1, "b", 1100, 1⟩) sampleStore).2 ∧
        Placed "b" (solo { (default : Choice) with problems := fun _ => .ok [] }
          (createMatch ⟨0, "a", 1000, 0⟩ ⟨1, "b", 1100, 1⟩) sampleStore).2) := by
  rintro ⟨⟨_, _, stored, _⟩ | queued, _⟩
  · cases stored
  · exact absurd queued (by decide)

end Solo

end CodeClash.Matchmaking
