import CodeClash.Matchmaking.Service

/-!
# Entries are consumed once

A tick goes on with its snapshot while `createMatch` waits. If `createMatch` only ever removes
entries that are still in the queue, every entry of every reachable state is at one stage of its
life cycle.
-/

namespace CodeClash.Matchmaking

open Async Pairing Program Function Server
open Battle (UserId RoomId ProblemId Problem User Failure BattleState)

def Event.consumes (entry : ℕ) : Event → Bool
  | .created _ _ p1 p2 => p1.id = entry ∨ p2.id = entry
  | _ => false

def battlesOf (entry : ℕ) (log : List Event) : List Event := log.filter (Event.consumes entry)

/-- Every entry is consumed by at most one battle, and by none if it has left the queue. -/
structure ConsumedOnce (log : List Event) : Prop where
  once : ∀ entry, (battlesOf entry log).length ≤ 1
  notAfterLeaving : ∀ entry, .left entry ∈ log → battlesOf entry log = []

/-- When `createMatch` removes two entries from the queue, they are in the queue. -/
def DequeuesQueued (state : ServerState) (action : ServerAction) : Prop :=
  ∀ p1 p2, state.issued action = some (.dequeue p1 p2) →
    p1 ∈ state.store.queue.entries ∧ p2 ∈ state.store.queue.entries

/-- A call only removes entries of two different players. It opens a battle of those two,
at most once. The phase has the entries until then. -/
def consuming : Protocol signature (Option (QueueEntry × QueueEntry)) where
  allows owed cmd :=
    match cmd with
    | .dequeue p1 p2 => p1.userId ≠ p2.userId
    | .storeBattle _ battle p1 p2 => owed = some (p1, p2) ∧ ∃ problem now matchId,
        battle = Battle.openingState p1.userId p2.userId problem now matchId
    | _ => True
  expects _ _ _ := True
  after owed cmd _ :=
    match cmd with
    | .dequeue p1 p2 => some (p1, p2)
    | .storeBattle _ _ _ _ => none
    | _ => owed

abbrev Consumes {α : Type} (program : Prog α) (owed : Option (QueueEntry × QueueEntry)) : Prop :=
  program.Obeys consuming (fun _ _ => True) owed

section Calls

variable {α : Type} {owed : Option (QueueEntry × QueueEntry)}

theorem consumes_of_neutral {post : Option (QueueEntry × QueueEntry) → α → Prop}
    {program : Prog α} (uses : program.Uses Cmd.Neutral) (final : ∀ value, post owed value) :
    program.Obeys consuming post owed := by
  apply obeys_of_uses _ _ uses final
  · intro cmd neutral
    cases cmd <;> trivial
  · intro cmd neutral _
    cases cmd <;> first | rfl | exact absurd neutral not_false

theorem openRoom_consumes (p1 p2 : QueueEntry) (roomId : RoomId) (problem : Option Problem) :
    Consumes (openRoom p1 p2 roomId problem) (some (p1, p2)) := by
  cases problem with
  | none => trivial
  | some problem => ?_
  apply obeys_perform_bind trivial
  intro user1 _
  apply obeys_perform_bind trivial
  intro user2 _
  split
  · apply obeys_perform_bind trivial
    intro record _
    apply obeys_perform_bind trivial
    intro time _
    apply await_obeys
    refine ⟨⟨rfl, problem, time, record.toOption, rfl⟩, ?_⟩
    intro stored _
    refine ⟨fun _ _ => trivial, ?_⟩
    intro _ _
    apply obeys_perform_bind trivial
    intro _ _
    apply obeys_perform_bind trivial
    intro _ _
    trivial
  · trivial

theorem createMatch_consumes {p1 p2 : QueueEntry} (differ : p1.userId ≠ p2.userId) :
    Consumes (createMatch p1 p2) owed := by
  apply obeys_perform_bind differ
  intro _ _
  apply await_obeys
  refine ⟨trivial, ?_⟩
  intro _ _
  refine ⟨fun _ _ => trivial, ?_⟩
  intro _ _
  apply await_obeys
  refine ⟨trivial, ?_⟩
  intro _ _
  refine ⟨fun _ _ => trivial, ?_⟩
  intro _ _
  apply obeys_perform_bind trivial
  intro roomId _
  apply await_obeys
  apply consumes_of_neutral (selectProblemForElo_neutral _)
  intro _
  exact ⟨fun _ _ => trivial, fun problem _ => openRoom_consumes p1 p2 roomId problem⟩

theorem matchLoop_consumes {matched : List UserId} {players : List QueueEntry}
    (distinct : (players.map QueueEntry.userId).Nodup) :
    Consumes (matchLoop matched players) owed := by
  induction players generalizing matched owed with
  | nil => trivial
  | cons player later ih =>
    rw [List.map_cons, List.nodup_cons] at distinct
    rcases distinct with ⟨fresh, distinctLater⟩
    rw [matchLoop]
    split
    · exact ih distinctLater
    · apply obeys_perform_bind trivial
      intro _ _
      split
      · exact ih distinctLater
      · rename_i other found
        have differ : player.userId ≠ other.userId := by
          intro same
          apply fresh
          rw [same]
          exact List.mem_map_of_mem (partner?_eq_some found).1
        apply await_obeys
        apply (createMatch_consumes differ).mono
        intro _ _ _
        refine ⟨fun _ _ => trivial, ?_⟩
        intro _ _
        exact ih distinctLater

theorem tick_consumes : Consumes tick owed := by
  apply obeys_perform_bind trivial
  rintro ⟨_, queue⟩ _
  apply obeys_bind.mpr
  apply consumes_of_neutral (notifyPositions_neutral _ _ _ _)
  intro _
  apply matchLoop_consumes
  exact ((List.perm_insertionSort _ _).map _).nodup_iff.mpr queue.users_nodup

theorem body_consumes (self : ℕ) (call : Call) : Consumes (body self call) none := by
  cases call with
  | addToQueue =>
    refine Program.Obeys.bind_of_forall ?_ fun _ _ => trivial
    refine ⟨trivial, ?_⟩
    intro added _
    cases added with
    | true => exact ⟨trivial, fun _ _ => trivial⟩
    | false => trivial
  | removeFromQueue =>
    refine Program.Obeys.bind_of_forall ?_ fun _ _ => trivial
    refine ⟨trivial, ?_⟩
    intro removed _
    cases removed with
    | true => exact ⟨trivial, fun _ _ => trivial⟩
    | false => trivial
  | tick => exact Program.Obeys.bind_of_forall tick_consumes fun _ _ => trivial

end Calls

def Queue.ids (queue : Queue) : List ℕ := queue.entries.map QueueEntry.id

/-- Where an entry stands: it does not exist yet, it is in the queue, its player has left,
a call has removed it for a match, or that call has created the battle. -/
inductive Stage where
  | unborn
  | queued
  | left
  | owed (call : ℕ)
  | spent
deriving DecidableEq

def Untouched (entry : ℕ) (log : List Event) : Prop :=
  battlesOf entry log = [] ∧ .left entry ∉ log

def Gone (entry : ℕ) (queue : Queue) : Prop := entry < queue.nextId ∧ entry ∉ queue.ids

def Stage.Agrees (entry : ℕ) (queue : Queue) (log : List Event) : Stage → Prop
  | unborn => queue.nextId ≤ entry ∧ Untouched entry log
  | queued => entry ∈ queue.ids ∧ Untouched entry log
  | left => Gone entry queue ∧ battlesOf entry log = []
  | owed _ => Gone entry queue ∧ Untouched entry log
  | spent => Gone entry queue ∧ (battlesOf entry log).length ≤ 1 ∧ .left entry ∉ log

def Owes (owed : Option (QueueEntry × QueueEntry)) (entry : ℕ) : Prop :=
  ∃ p1 p2, owed = some (p1, p2) ∧ (entry = p1.id ∨ entry = p2.id)

/-- Every entry is at its stage, and the entries a call owes a battle are owed by it. -/
structure LifeCycle (stage : ℕ → Stage) (state : ServerState) : Prop where
  entries : ∀ entry, (stage entry).Agrees entry state.store.queue state.store.log
  calls : ∀ id process, state.processes id = some process →
    ∃ owed, Consumes process.program owed ∧ ∀ entry, Owes owed entry → stage entry = .owed id

section Stages

variable {entry : ℕ} {queue : Queue} {log : List Event} {stage : Stage}

theorem Queue.id_lt (present : entry ∈ queue.ids) : entry < queue.nextId := by
  rcases List.mem_map.mp present with ⟨queued, inQueue, rfl⟩
  exact queue.ids_lt queued inQueue

theorem Stage.Agrees.queued_of_mem (agrees : stage.Agrees entry queue log)
    (present : entry ∈ queue.ids) : stage = .queued := by
  cases stage with
  | unborn => exact absurd (Queue.id_lt present) (Nat.not_lt.mpr agrees.1)
  | queued => rfl
  | left => exact absurd present agrees.1.2
  | owed => exact absurd present agrees.1.2
  | spent => exact absurd present agrees.1.2

theorem Stage.Agrees.unborn_of_le (agrees : stage.Agrees entry queue log)
    (later : queue.nextId ≤ entry) : stage = .unborn := by
  cases stage with
  | unborn => rfl
  | queued => exact absurd (Queue.id_lt agrees.1) (Nat.not_lt.mpr later)
  | left => exact absurd agrees.1.1 (Nat.not_lt.mpr later)
  | owed => exact absurd agrees.1.1 (Nat.not_lt.mpr later)
  | spent => exact absurd agrees.1.1 (Nat.not_lt.mpr later)

theorem Stage.Agrees.kept {queue' : Queue} {log' : List Event}
    (agrees : stage.Agrees entry queue log) (sameIds : entry ∈ queue'.ids ↔ entry ∈ queue.ids)
    (sameBorn : queue'.nextId ≤ entry ↔ queue.nextId ≤ entry)
    (sameBattles : battlesOf entry log' = battlesOf entry log)
    (sameLeft : .left entry ∈ log' ↔ .left entry ∈ log) : stage.Agrees entry queue' log' := by
  have sameGone : Gone entry queue' ↔ Gone entry queue := by
    rw [Gone, Gone, sameIds, ← Nat.not_le, sameBorn, Nat.not_le]
  have sameUntouched : Untouched entry log' ↔ Untouched entry log := by
    rw [Untouched, Untouched, sameBattles, sameLeft]
  cases stage <;>
    simpa only [Stage.Agrees, sameGone, sameUntouched, sameIds, sameBorn, sameBattles, sameLeft]
      using agrees

theorem Queue.mem_ids_delete {removed : QueueEntry} (present : removed ∈ queue.entries) :
    entry ∈ (queue.delete removed.userId).ids ↔ entry ∈ queue.ids ∧ entry ≠ removed.id := by
  simp only [Queue.ids, List.mem_map, Queue.mem_delete]
  refine ⟨?_, ?_⟩
  · rintro ⟨other, ⟨inQueue, differs⟩, rfl⟩
    refine ⟨⟨other, inQueue, rfl⟩, ?_⟩
    intro same
    exact differs (by rw [queue.eq_of_id inQueue present same])
  · rintro ⟨⟨other, inQueue, rfl⟩, differs⟩
    refine ⟨other, ⟨inQueue, ?_⟩, rfl⟩
    intro same
    exact differs (by rw [queue.eq_of_userId inQueue present same])

theorem Queue.mem_ids_delete_delete {p1 p2 : QueueEntry} (present1 : p1 ∈ queue.entries)
    (present2 : p2 ∈ queue.entries) (differ : p1.userId ≠ p2.userId) :
    entry ∈ ((queue.delete p1.userId).delete p2.userId).ids ↔
      entry ∈ queue.ids ∧ entry ≠ p1.id ∧ entry ≠ p2.id := by
  have still : p2 ∈ (queue.delete p1.userId).entries :=
    Queue.mem_delete.mpr ⟨present2, Ne.symm differ⟩
  rw [Queue.mem_ids_delete still, Queue.mem_ids_delete present1, and_assoc]

theorem Untouched.created (untouched : Untouched entry log) (roomId : RoomId)
    (state : BattleState) (p1 p2 : QueueEntry) :
    (battlesOf entry (.created roomId state p1 p2 :: log)).length ≤ 1 ∧
      .left entry ∉ .created roomId state p1 p2 :: log := by
  refine ⟨?_, ?_⟩
  · rw [battlesOf, List.filter_cons, ← battlesOf, untouched.1]
    split <;> simp
  · simpa using untouched.2

end Stages

def answered (state : ServerState) (id : ℕ) (call : Call) (cmd : Cmd)
    (rest : cmd.Reply → Prog Unit) (choice : Choice) : ServerState :=
  ⟨(handle cmd choice state.store).2, update state.processes id
    (some ⟨call, rest (handle cmd choice state.store).1⟩)⟩

section Steps

variable {stage : ℕ → Stage} {state : ServerState} {id : ℕ} {call : Call} {cmd : Cmd}
  {rest : cmd.Reply → Prog Unit} {choice : Choice} {owed : Option (QueueEntry × QueueEntry)}
  {store : Store} {userId : UserId} {p1 p2 : QueueEntry}

theorem LifeCycle.advance {stage' : ℕ → Stage} (cycle : LifeCycle stage state)
    (consumes : ∀ reply, Consumes (rest reply) owed)
    (entries : ∀ entry, (stage' entry).Agrees entry (handle cmd choice state.store).2.queue
      (handle cmd choice state.store).2.log)
    (own : ∀ entry, Owes owed entry → stage' entry = .owed id)
    (others : ∀ entry other, other ≠ id → stage entry = .owed other →
      stage' entry = .owed other) :
    LifeCycle stage' (answered state id call cmd rest choice) where
  entries := entries
  calls := by
    intro other process found
    apply forall_update _ _ found
    · exact ⟨owed, consumes _, own⟩
    · intro other process differs found
      rcases cycle.calls other process found with ⟨owed, consumes, owes⟩
      exact ⟨owed, consumes, fun entry owe => others entry other differs (owes entry owe)⟩

variable {entry other : ℕ} {moved : Stage}

theorem owed_update {target : ℕ}
    (notOwed : ∀ call, stage target ≠ .owed call) (owed : stage entry = .owed other) :
    update stage target moved entry = .owed other := by
  have differs : entry ≠ target := by
    rintro rfl
    exact notOwed other owed
  rw [update_of_ne differs]
  exact owed

theorem agrees_join (elo now : ℤ) (absent : store.queue.has userId = false)
    (entries : ∀ entry, (stage entry).Agrees entry store.queue store.log) (entry : ℕ) :
    (update stage store.queue.nextId .queued entry).Agrees entry
      (store.queue.push userId elo now absent) store.log := by
  by_cases new : entry = store.queue.nextId
  · subst new
    have agrees := entries store.queue.nextId
    rw [agrees.unborn_of_le le_rfl] at agrees
    rw [update_self]
    exact ⟨by simp [Queue.ids, Queue.push], agrees.2⟩
  · rw [update_of_ne new]
    refine (entries entry).kept ?_ ?_ rfl Iff.rfl
    · simp [Queue.ids, Queue.push, new]
    · simp only [Queue.push]
      omega

theorem agrees_leave {removed : QueueEntry} (present : removed ∈ store.queue.entries)
    (entries : ∀ entry, (stage entry).Agrees entry store.queue store.log) (entry : ℕ) :
    (update stage removed.id .left entry).Agrees entry
      (store.queue.delete removed.userId) (.left removed.id :: store.log) := by
  by_cases same : entry = removed.id
  · subst same
    have agrees := entries removed.id
    rw [agrees.queued_of_mem (List.mem_map_of_mem present)] at agrees
    rw [update_self]
    refine ⟨⟨store.queue.ids_lt removed present, ?_⟩, agrees.2.1⟩
    rw [Queue.mem_ids_delete present]
    simp
  · rw [update_of_ne same]
    refine (entries entry).kept ?_ Iff.rfl rfl ?_
    · rw [Queue.mem_ids_delete present]
      simp [same]
    · simp [same]

def movePair (stage : ℕ → Stage) (p1 p2 : QueueEntry) (moved : Stage) (entry : ℕ) : Stage :=
  if entry = p1.id ∨ entry = p2.id then moved else stage entry

theorem owed_movePair (notOwed1 : stage p1.id ≠ .owed other) (notOwed2 : stage p2.id ≠ .owed other)
    (owed : stage entry = .owed other) : movePair stage p1 p2 moved entry = .owed other := by
  have differs : ¬(entry = p1.id ∨ entry = p2.id) := by
    rintro (rfl | rfl)
    · exact notOwed1 owed
    · exact notOwed2 owed
  rw [movePair, if_neg differs]
  exact owed

theorem agrees_dequeue (present1 : p1 ∈ store.queue.entries) (present2 : p2 ∈ store.queue.entries)
    (differ : p1.userId ≠ p2.userId)
    (entries : ∀ entry, (stage entry).Agrees entry store.queue store.log) (entry : ℕ) :
    (movePair stage p1 p2 (.owed id) entry).Agrees entry (store.dequeue p1 p2).queue
      (store.dequeue p1 p2).log := by
  rw [movePair]
  split
  · rename_i moved
    have present : entry ∈ store.queue.ids := by
      rcases moved with rfl | rfl
      · exact List.mem_map_of_mem present1
      · exact List.mem_map_of_mem present2
    have agrees := entries entry
    rw [agrees.queued_of_mem present] at agrees
    have born : entry < store.queue.nextId := Queue.id_lt present
    refine ⟨⟨born, ?_⟩, agrees.2.1, ?_⟩
    · simp only [Store.dequeue]
      rw [Queue.mem_ids_delete_delete present1 present2 differ]
      tauto
    · simpa [Store.dequeue] using agrees.2.2
  · rename_i unmoved
    refine (entries entry).kept ?_ Iff.rfl rfl ?_
    · simp only [Store.dequeue]
      rw [Queue.mem_ids_delete_delete present1 present2 differ]
      tauto
    · simp [Store.dequeue]

theorem agrees_created (roomId : RoomId)
    (battle : BattleState) (owed1 : stage p1.id = .owed id) (owed2 : stage p2.id = .owed id)
    (entries : ∀ entry, (stage entry).Agrees entry store.queue store.log) (entry : ℕ) :
    (movePair stage p1 p2 .spent entry).Agrees entry store.queue
      (.created roomId battle p1 p2 :: store.log) := by
  rw [movePair]
  split
  · rename_i moved
    have owed : stage entry = .owed id := by
      rcases moved with rfl | rfl
      · exact owed1
      · exact owed2
    have agrees := entries entry
    rw [owed] at agrees
    exact ⟨agrees.1, agrees.2.created roomId battle p1 p2⟩
  · rename_i unmoved
    have notConsumed : Event.consumes entry (.created roomId battle p1 p2) = false := by
      simp only [Event.consumes, decide_eq_false_iff_not]
      tauto
    refine (entries entry).kept Iff.rfl Iff.rfl ?_ ?_
    · simp [battlesOf, notConsumed]
    · simp

variable (cycle : LifeCycle stage state)

include cycle

theorem lifeCycle_join {elo : ℤ} {rest : Bool → Prog Unit}
    (owes : ∀ entry, Owes owed entry → stage entry = .owed id)
    (consumes : ∀ reply, Consumes (rest reply) owed) :
    ∃ stage', LifeCycle stage' (answered state id call (.join userId elo) rest choice) := by
  by_cases absent : state.store.queue.has userId = false
  · have unborn := (cycle.entries state.store.queue.nextId).unborn_of_le le_rfl
    have notOwed (call : ℕ) : stage state.store.queue.nextId ≠ .owed call := by
      rw [unborn]
      exact Stage.noConfusion
    refine ⟨update stage state.store.queue.nextId .queued,
      cycle.advance consumes ?_ ?_ ?_⟩
    · simp only [handle, Store.join, absent, dif_pos]
      exact agrees_join elo choice.now absent cycle.entries
    · intro entry owe
      exact owed_update notOwed (owes entry owe)
    · intro _ _ _ owed
      exact owed_update notOwed owed
  · refine ⟨stage, cycle.advance consumes ?_ owes fun _ _ _ owed => owed⟩
    simpa only [handle, Store.join, dif_neg absent] using cycle.entries

theorem lifeCycle_leave {rest : Bool → Prog Unit}
    (owes : ∀ entry, Owes owed entry → stage entry = .owed id)
    (consumes : ∀ reply, Consumes (rest reply) owed) :
    ∃ stage', LifeCycle stage' (answered state id call (.leave userId) rest choice) := by
  cases found : state.store.queue.get? userId with
  | none =>
    refine ⟨stage, cycle.advance consumes ?_ owes fun _ _ _ owed => owed⟩
    simpa only [handle, Store.leave, found] using cycle.entries
  | some removed =>
    have present := List.mem_of_find?_eq_some found
    have sameUser := List.find?_some found
    simp only [decide_eq_true_eq] at sameUser
    have queued := (cycle.entries removed.id).queued_of_mem (List.mem_map_of_mem present)
    have notOwed (call : ℕ) : stage removed.id ≠ .owed call := by
      rw [queued]
      exact Stage.noConfusion
    refine ⟨update stage removed.id .left, cycle.advance consumes ?_ ?_ ?_⟩
    · simp only [handle, Store.leave, found]
      rw [← sameUser]
      exact agrees_leave present cycle.entries
    · intro entry owe
      exact owed_update notOwed (owes entry owe)
    · intro _ _ _ owed
      exact owed_update notOwed owed

theorem lifeCycle_dequeue {rest : Unit → Prog Unit}
    (present1 : p1 ∈ state.store.queue.entries)
    (present2 : p2 ∈ state.store.queue.entries) (differ : p1.userId ≠ p2.userId)
    (consumes : ∀ reply, Consumes (rest reply) (some (p1, p2))) :
    ∃ stage', LifeCycle stage' (answered state id call (.dequeue p1 p2) rest choice) := by
  have queued1 := (cycle.entries p1.id).queued_of_mem (List.mem_map_of_mem present1)
  have queued2 := (cycle.entries p2.id).queued_of_mem (List.mem_map_of_mem present2)
  refine ⟨movePair stage p1 p2 (.owed id), cycle.advance consumes ?_ ?_ ?_⟩
  · exact agrees_dequeue present1 present2 differ cycle.entries
  · rintro entry ⟨_, _, pair, isEntry⟩
    cases pair
    exact if_pos isEntry
  · intro _ _ _ owed
    apply owed_movePair _ _ owed
    · rw [queued1]
      exact Stage.noConfusion
    · rw [queued2]
      exact Stage.noConfusion

theorem lifeCycle_storeBattle {roomId : RoomId} {battle : BattleState}
    {rest : Except Failure Unit → Prog Unit}
    (owed1 : stage p1.id = .owed id) (owed2 : stage p2.id = .owed id)
    (consumes : ∀ reply, Consumes (rest reply) none) :
    ∃ stage', LifeCycle stage'
      (answered state id call (.storeBattle roomId battle p1 p2) rest choice) := by
  have owesNothing (stage' : ℕ → Stage) (entry : ℕ) (owe : Owes none entry) :
      stage' entry = .owed id := by
    rcases owe with ⟨_, _, impossible, _⟩
    cases impossible
  cases fails : choice.storeFails with
  | true =>
    refine ⟨stage, cycle.advance consumes ?_ (owesNothing stage) fun _ _ _ owed => owed⟩
    simpa only [handle, Store.storeBattle, fails, if_true] using cycle.entries
  | false =>
    refine ⟨movePair stage p1 p2 .spent, cycle.advance consumes ?_ (owesNothing _) ?_⟩
    · simp only [handle, Store.storeBattle, fails, Bool.false_eq_true, if_false]
      exact agrees_created roomId battle owed1 owed2 cycle.entries
    · intro _ other differs owed
      have notOther : Stage.owed id ≠ .owed other := by
        intro same
        cases same
        exact differs rfl
      apply owed_movePair _ _ owed
      · rw [owed1]
        exact notOther
      · rw [owed2]
        exact notOther

theorem lifeCycle_advance
    (waiting : state.processes id = some ⟨call, .issue cmd rest⟩)
    (met : DequeuesQueued state (.advance id choice)) :
    ∃ stage', LifeCycle stage' (answered state id call cmd rest choice) := by
  rcases cycle.calls id _ waiting with ⟨owed, ⟨allowed, later⟩, owes⟩
  have consumes (reply : cmd.Reply) := later reply trivial
  cases cmd with
  | join => exact lifeCycle_join cycle owes consumes
  | leave => exact lifeCycle_leave cycle owes consumes
  | dequeue p1 p2 =>
    rcases met p1 p2 (State.issued_advance waiting choice) with ⟨present1, present2⟩
    exact lifeCycle_dequeue cycle present1 present2 allowed consumes
  | storeBattle _ _ p1 p2 =>
    rcases allowed with ⟨rfl, _⟩
    have owed1 := owes p1.id ⟨p1, p2, rfl, Or.inl rfl⟩
    have owed2 := owes p2.id ⟨p1, p2, rfl, Or.inr rfl⟩
    exact lifeCycle_storeBattle cycle owed1 owed2 consumes
  | emit =>
    refine ⟨stage, cycle.advance consumes ?_ owes fun _ _ _ owed => owed⟩
    simp only [handle]
    split
    · exact cycle.entries
    · exact cycle.entries
  | _ => exact ⟨stage, cycle.advance consumes cycle.entries owes fun _ _ _ owed => owed⟩

theorem lifeCycle_step {action : ServerAction} {next : ServerState}
    (met : DequeuesQueued state action) (cases : server.StepCases state action next) :
    ∃ stage', LifeCycle stage' next := by
  cases cases with
  | start id call _ _ accepted =>
    cases accepted
    refine ⟨stage, cycle.entries, ?_⟩
    refine forall_updated ?_ cycle.calls
    refine ⟨none, body_consumes id call, ?_⟩
    rintro _ ⟨_, _, impossible, _⟩
    cases impossible
  | advance _ _ _ _ _ waiting => exact lifeCycle_advance cycle waiting met
  | happen event _ happened =>
    cases event <;>
    · cases happened
      exact ⟨stage, cycle.entries, cycle.calls⟩

end Steps

theorem lifeCycle_fresh : LifeCycle (fun _ => .unborn) freshServer where
  entries entry := ⟨Nat.zero_le entry, rfl, List.not_mem_nil⟩
  calls _ _ found := nomatch found

variable {state : ServerState}

theorem LifeCycle.consumedOnce {stage : ℕ → Stage}
    (cycle : LifeCycle stage state) : ConsumedOnce state.store.log where
  once entry := by
    have agrees := cycle.entries entry
    cases atStage : stage entry with
    | spent =>
      rw [atStage] at agrees
      exact agrees.2.1
    | left =>
      rw [atStage] at agrees
      simp [agrees.2]
    | _ =>
      rw [atStage] at agrees
      simp [agrees.2.1]
  notAfterLeaving entry hasLeft := by
    have agrees := cycle.entries entry
    cases atStage : stage entry with
    | left =>
      rw [atStage] at agrees
      exact agrees.2
    | spent =>
      rw [atStage] at agrees
      exact absurd hasLeft agrees.2.2
    | _ =>
      rw [atStage] at agrees
      exact absurd hasLeft agrees.2.2

def InCycle (state : ServerState) : Prop := ∃ stage, LifeCycle stage state

theorem reaches_inCycle
    (reached : server.Reaches DequeuesQueued freshServer state) : InCycle state := by
  apply reached.invariant
  · exact ⟨_, lifeCycle_fresh⟩
  · rintro _ _ _ _ ⟨_, cycle⟩ met cases
    exact lifeCycle_step cycle met cases

/--
If `createMatch` only ever removes entries that are still in the queue, then in every
reachable state each entry has been consumed by at most one battle, and by none if its
player left the queue.
-/
theorem entries_consumed_once {state : ServerState}
    (reached : server.Reaches DequeuesQueued freshServer state) :
    ConsumedOnce state.store.log := by
  rcases reaches_inCycle reached with ⟨_, cycle⟩
  exact cycle.consumedOnce

def joins : List ServerAction :=
  [.start 0 (.addToQueue "a" 1000), .advance 0 default, .start 1 (.addToQueue "b" 1000),
    .advance 1 default, .start 2 (.addToQueue "c" 1000), .advance 2 default,
    .start 3 (.addToQueue "d" 1000), .advance 3 default]

/--
Four players are in the queue when a tick starts. It has removed the first two and waits
for Redis when the third player leaves. The tick goes on with its snapshot and creates a
battle with the player who has left.
-/
theorem leaving_during_tick_is_consumed :
    ∃ state, server.Reaches anyStep freshServer state ∧
      ¬ConsumedOnce state.store.log := by
  have run : ∃ state, server.Reaches anyStep freshServer state ∧
      (.left 2 ∈ state.store.log ∧ battlesOf 2 state.store.log ≠ []) := by
    apply exists_reaches [0, 1, 2, 3, 4, 5] (fun _ _ => true)
      (joins ++ .start 4 .tick :: List.replicate 7 (.advance 4 default) ++
        .start 5 (.removeFromQueue "c") :: .advance 5 default ::
        List.replicate 24 (.advance 4 default))
    · intro _ _ _ _
      trivial
    · intro _ _
      rfl
    · decide
  rcases run with ⟨state, reached, hasLeft, consumed⟩
  exact ⟨state, reached, fun correct => consumed (correct.notAfterLeaving 2 hasLeft)⟩

def dequeuesQueued (state : ServerState) (action : ServerAction) : Bool :=
  match state.issued action with
  | some (.dequeue p1 p2) => p1 ∈ state.store.queue.entries ∧ p2 ∈ state.store.queue.entries
  | _ => true

theorem undisturbed_tick_consumes_once :
    ∃ state, server.Reaches DequeuesQueued freshServer state ∧
      battlesOf 2 state.store.log ≠ [] ∧ ConsumedOnce state.store.log := by
  apply exists_reaches_and [0, 1, 2, 3, 4] dequeuesQueued
    (joins ++ .start 4 .tick :: List.replicate 31 (.advance 4 default))
  · intro state _ _ checked _ _ issued
    simpa [dequeuesQueued, issued] using checked
  · intro _ _
    rfl
  · decide
  · intro _ reached
    exact entries_consumed_once reached

end CodeClash.Matchmaking
