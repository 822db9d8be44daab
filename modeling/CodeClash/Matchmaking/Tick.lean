import CodeClash.Matchmaking.Service

/-!
# The pairs of one tick

A tick takes a snapshot of the queue, sorts it by join time and pairs its players greedily. The
pairs it passes to `createMatch` are the greedy pairing for its windows, whatever else joins or
leaves the queue, as long as no `createMatch` is rejected and no other tick runs.
-/

namespace CodeClash.Matchmaking

open Async Pairing Program
open Battle (UserId RoomId ProblemId Problem User Failure BattleState)

/-- A list of the entries by join time, with entries of the same time in their old order. -/
structure StableOrder (entries order : List QueueEntry) : Prop where
  perm : order.Perm entries
  sorted : order.Pairwise JoinedNoLater
  stable : ∀ p q, [p, q].Sublist entries → p.joinedAt = q.joinedAt → [p, q].Sublist order

/-- The pairs that a tick at time `now` should make of a queue that is scanned in the
given order. -/
structure TickPairing (now : ℤ) (queue : Queue) (order : List QueueEntry)
    (pairs : List (QueueEntry × QueueEntry)) : Prop where
  stableOrder : StableOrder queue.entries order
  disjoint : (pairs.flatMap fun pair => [pair.1.userId, pair.2.userId]).Nodup
  queued : ∀ p q, (p, q) ∈ pairs → p ∈ queue.entries ∧ q ∈ queue.entries
  within : ∀ p q, (p, q) ∈ pairs →
    |p.elo - q.elo| ≤ eloWindow now p ∧ |p.elo - q.elo| ≤ eloWindow now q
  maximal : ∀ p ∈ queue.entries, ∀ q ∈ queue.entries, p ≠ q →
    p.userId ∉ keys QueueEntry.userId pairs → q.userId ∉ keys QueueEntry.userId pairs →
      ¬(|p.elo - q.elo| ≤ eloWindow now p ∧ |p.elo - q.elo| ≤ eloWindow now q)
  first : ∀ before p later, order = before ++ p :: later →
    p.userId ∉ keys QueueEntry.userId (madeIn QueueEntry.userId before pairs) →
      ∀ q, (p, q) ∈ pairs ↔
        later.find? (fun other =>
          other.userId ∉ keys QueueEntry.userId (madeIn QueueEntry.userId before pairs) ∧
            WithinWindows (eloWindow now) p other) = some q

def passed (log : List Event) : List (QueueEntry × QueueEntry) :=
  (log.filterMap fun
    | .dequeued p1 p2 => some (p1, p2)
    | _ => none).reverse

theorem passed_dequeued (p1 p2 : QueueEntry) (log : List Event) :
    passed (.dequeued p1 p2 :: log) = passed log ++ [(p1, p2)] := by
  simp [passed]

instance : Std.Total JoinedNoLater := ⟨fun p q => le_total p.joinedAt q.joinedAt⟩

instance : IsTrans QueueEntry JoinedNoLater := ⟨fun _ _ _ => le_trans⟩

theorem joinOrder_stable (queue : Queue) : StableOrder queue.entries (joinOrder queue) where
  perm := List.perm_insertionSort _ _
  sorted := List.pairwise_insertionSort _ _
  stable _ _ before same := List.pair_sublist_insertionSort (r := JoinedNoLater) same.le before

variable {now : ℤ} {p q : QueueEntry}

theorem withinWindows_iff :
    WithinWindows (eloWindow now) p q ↔
      |p.elo - q.elo| ≤ eloWindow now p ∧ |p.elo - q.elo| ≤ eloWindow now q :=
  le_min_iff

theorem WithinWindows.symm {windows : QueueEntry → ℤ}
    (within : WithinWindows windows p q) : WithinWindows windows q p := by
  rw [WithinWindows, abs_sub_comm, min_comm]
  exact within

theorem tickPairing_of_isGreedy {queue : Queue} {pairs : List (QueueEntry × QueueEntry)}
    (greedy : IsGreedy QueueEntry.userId (WithinWindows (eloWindow now)) (joinOrder queue)
      pairs) :
    TickPairing now queue (joinOrder queue) pairs where
  stableOrder := joinOrder_stable queue
  disjoint := greedy.disjoint
  queued p q made := by
    have sublist := greedy.ordered p q made
    have queued (entry : QueueEntry) (inPair : entry ∈ [p, q]) : entry ∈ queue.entries :=
      (joinOrder_stable queue).perm.subset (sublist.subset inPair)
    exact ⟨queued p (by simp), queued q (by simp)⟩
  within p q made := withinWindows_iff.mp (greedy.suited p q made)
  maximal p queued q alsoQueued differs pFree qFree within := by
    have inOrder (entry : QueueEntry) (present : entry ∈ queue.entries) :
        entry ∈ joinOrder queue :=
      (joinOrder_stable queue).perm.symm.subset present
    rcases pair_sublist_of_mem (inOrder p queued) (inOrder q alsoQueued) differs with
      ordered | ordered
    · exact greedy.maximal ordered pFree qFree (withinWindows_iff.mpr within)
    · exact greedy.maximal ordered qFree pFree (withinWindows_iff.mpr within).symm
  first := greedy.first

/-- Nothing a tick does after its snapshot changes windows, and it is told the windows of
its time. The phase has the pairs it has passed to `createMatch`. -/
def pairing (now : ℤ) (queue : Queue) :
    Protocol signature (List (QueueEntry × QueueEntry)) where
  allows _ cmd :=
    match cmd with
    | .join _ _ | .snapshot => False
    | _ => True
  expects _ cmd reply :=
    match cmd, reply with
    | .readWindows, windows => ∀ entry ∈ queue.entries, windows entry.id = eloWindow now entry
    | _, _ => True
  after pairs cmd _ :=
    match cmd with
    | .dequeue p1 p2 => pairs ++ [(p1, p2)]
    | _ => pairs

section Following

variable {α : Type} {now : ℤ} {queue : Queue} {pairs : List (QueueEntry × QueueEntry)}

theorem pairing_obeys_of_neutral {post : List (QueueEntry × QueueEntry) → α → Prop}
    {program : Prog α} (uses : program.Uses Cmd.Neutral) (final : ∀ value, post pairs value) :
    program.Obeys (pairing now queue) post pairs := by
  apply obeys_of_uses _ _ uses final
  · intro cmd neutral
    cases cmd <;> trivial
  · intro cmd neutral _
    cases cmd <;> first | rfl | exact absurd neutral not_false

theorem openRoom_pairing {p1 p2 : QueueEntry} {roomId : RoomId} {problem : Option Problem} :
    (openRoom p1 p2 roomId problem).Obeys (pairing now queue) (fun reached _ => reached = pairs)
      pairs := by
  cases problem with
  | none => rfl
  | some => ?_
  apply obeys_perform_bind trivial
  intro _ _
  apply obeys_perform_bind trivial
  intro _ _
  split
  · apply obeys_perform_bind trivial
    intro _ _
    apply obeys_perform_bind trivial
    intro _ _
    apply await_obeys
    refine ⟨trivial, ?_⟩
    intro _ _
    refine ⟨fun _ _ => rfl, ?_⟩
    intro _ _
    apply obeys_perform_bind trivial
    intro _ _
    apply obeys_perform_bind trivial
    intro _ _
    rfl
  · rfl

theorem createMatch_pairing (p1 p2 : QueueEntry) :
    (createMatch p1 p2).Obeys (pairing now queue) (fun reached _ => reached = pairs ++ [(p1, p2)])
      pairs := by
  apply obeys_perform_bind trivial
  intro _ _
  apply await_obeys
  refine ⟨trivial, ?_⟩
  intro _ _
  refine ⟨fun _ _ => rfl, ?_⟩
  intro _ _
  apply await_obeys
  refine ⟨trivial, ?_⟩
  intro _ _
  refine ⟨fun _ _ => rfl, ?_⟩
  intro _ _
  apply obeys_perform_bind trivial
  intro _ _
  apply await_obeys
  apply pairing_obeys_of_neutral (selectProblemForElo_neutral _)
  intro _
  exact ⟨fun _ _ => rfl, fun _ _ => openRoom_pairing⟩

variable {matched : List UserId}

theorem partner?_windows {windows : ℕ → ℤ} {player : QueueEntry}
    {later : List QueueEntry} (queued : ∀ entry ∈ player :: later, entry ∈ queue.entries)
    (told : ∀ entry ∈ queue.entries, windows entry.id = eloWindow now entry) :
    partner? QueueEntry.userId (WithinWindows fun entry => windows entry.id) matched player later =
      partner? QueueEntry.userId (WithinWindows (eloWindow now)) matched player later := by
  apply partner?_congr_compatible
  intro other present
  simp only [WithinWindows, told player (queued player List.mem_cons_self),
    told other (queued other (List.mem_cons_of_mem _ present))]

theorem matchLoop_pairing {players : List QueueEntry}
    (queued : ∀ entry ∈ players, entry ∈ queue.entries) :
    (matchLoop matched players).Obeys (pairing now queue) (fun reached value => value = .ok () →
        reached = pairs ++ greedy QueueEntry.userId (WithinWindows (eloWindow now)) matched players)
      pairs := by
  induction players generalizing matched pairs with
  | nil =>
    intro _
    simp [greedy]
  | cons player later ih =>
    have queuedLater : ∀ entry ∈ later, entry ∈ queue.entries :=
      fun entry present => queued entry (List.mem_cons_of_mem _ present)
    rw [matchLoop, greedy]
    split
    · exact ih queuedLater
    · apply obeys_perform_bind trivial
      intro _ told
      rw [partner?_windows queued told]
      cases partner? QueueEntry.userId (WithinWindows (eloWindow now)) matched player later with
      | none => exact ih queuedLater
      | some other =>
        apply await_obeys
        apply (createMatch_pairing player other).mono
        rintro reached value rfl
        refine ⟨?_, ?_⟩
        · intro _ _ finished
          cases finished
        · intro _ _
          apply (ih queuedLater).mono
          intro _ _ passes finished
          rw [passes finished, List.append_assoc]
          rfl

theorem matchPlayers_pairing (now : ℤ) (queue : Queue) :
    (matchPlayers now (joinOrder queue)).Obeys (pairing now queue)
      (fun reached value => value = .ok () →
        reached = greedy QueueEntry.userId (WithinWindows (eloWindow now)) [] (joinOrder queue))
      [] := by
  apply obeys_bind.mpr
  apply pairing_obeys_of_neutral (notifyPositions_neutral _ _ _ _)
  intro _
  have queued : ∀ entry ∈ joinOrder queue, entry ∈ queue.entries :=
    fun entry present => (joinOrder_stable queue).perm.subset present
  apply (matchLoop_pairing queued).mono
  intro _ _ passes finished
  exact passes finished

end Following

/-- Nobody else assigns windows to entries of the queue or passes pairs to `createMatch`. -/
structure NoOtherTick (queue : Queue) (meanwhile : Store → Store) : Prop where
  windows : ∀ store, ∀ entry ∈ queue.entries,
    (meanwhile store).eloWindows entry.id = store.eloWindows entry.id
  made : ∀ store, passed (meanwhile store).log = passed store.log

section Stores

variable {now : ℤ} {queue : Queue} {store : Store}

theorem expandWindows_eq {entry : QueueEntry} (present : entry ∈ store.queue.entries) :
    (store.expandWindows now).eloWindows entry.id = eloWindow now entry := by
  have found : store.queue.entries.find? (fun other => other.id = entry.id) = some entry := by
    cases search : store.queue.entries.find? (fun other => other.id = entry.id) with
    | none =>
      have missing := List.find?_eq_none.mp search entry present
      simp at missing
    | some =>
      have sameId := List.find?_some search
      simp only [decide_eq_true_eq] at sameId
      rw [store.queue.eq_of_id (List.mem_of_find?_eq_some search) present sameId]
  simp [Store.expandWindows, found]

structure TickStore (now : ℤ) (queue : Queue) (before : List (QueueEntry × QueueEntry))
    (store : Store) (pairs : List (QueueEntry × QueueEntry)) : Prop where
  windows : ∀ entry ∈ queue.entries, store.eloWindows entry.id = eloWindow now entry
  made : passed store.log = before ++ pairs

variable {before pairs : List (QueueEntry × QueueEntry)}

theorem TickStore.answered (cmd : Cmd) (choice : Choice)
    (tickStore : TickStore now queue before store pairs)
    (allowed : (pairing now queue).allows pairs cmd) :
    (pairing now queue).expects pairs cmd (handle cmd choice store).1 ∧
      TickStore now queue before (handle cmd choice store).2
        ((pairing now queue).after pairs cmd (handle cmd choice store).1) := by
  cases cmd with
  | join => exact absurd allowed not_false
  | snapshot => exact absurd allowed not_false
  | readWindows => exact ⟨tickStore.windows, tickStore⟩
  | dequeue p1 p2 =>
    refine ⟨trivial, tickStore.windows, ?_⟩
    calc passed (.dequeued p1 p2 :: store.log)
      _ = passed store.log ++ [(p1, p2)] := passed_dequeued p1 p2 store.log
      _ = before ++ pairs ++ [(p1, p2)] := by rw [tickStore.made]
      _ = before ++ (pairs ++ [(p1, p2)]) := List.append_assoc _ _ _
  | leave =>
    refine ⟨trivial, ?_⟩
    simp only [handle, Store.leave]
    split
    · exact tickStore
    · exact ⟨tickStore.windows, tickStore.made⟩
  | storeBattle =>
    refine ⟨trivial, ?_⟩
    simp only [handle, Store.storeBattle]
    split
    · exact tickStore
    · exact ⟨tickStore.windows, tickStore.made⟩
  | emit =>
    refine ⟨trivial, ?_⟩
    simp only [handle]
    split
    · exact ⟨tickStore.windows, tickStore.made⟩
    · exact tickStore
  | _ => exact ⟨trivial, tickStore⟩

/--
A tick that takes a snapshot of the queue and finishes, which it does unless a call to
`createMatch` is rejected, passes a correct pairing of the snapshot to `createMatch`.
Players may join and leave while it waits.
-/
theorem tick_pairs_correctly {meanwhile : ℕ → Store → Store} {choices : ℕ → Choice}
    (snapshot : (meanwhile 0 store).queue = queue)
    (alone : ∀ n, NoOtherTick queue (meanwhile n))
    (finishes : (tick.run handle meanwhile choices store).1 = .ok ()) :
    ∃ order pairs,
      passed (tick.run handle meanwhile choices store).2.log = passed store.log ++ pairs ∧
        TickPairing (choices 0).now queue order pairs := by
  subst queue
  have started : TickStore (choices 0).now (meanwhile 0 store).queue (passed store.log)
      ((meanwhile 0 store).expandWindows (choices 0).now) [] := by
    refine ⟨fun entry present => expandWindows_eq present, ?_⟩
    rw [List.append_nil]
    exact (alone 0).made store
  have undisturbed (n : ℕ) (later : Store) (pairs : List (QueueEntry × QueueEntry))
      (tickStore : TickStore (choices 0).now (meanwhile 0 store).queue (passed store.log) later
        pairs) :
      TickStore (choices 0).now (meanwhile 0 store).queue (passed store.log)
        (meanwhile (n + 1) later) pairs := by
    refine ⟨?_, ((alone (n + 1)).made later).trans tickStore.made⟩
    intro entry present
    exact ((alone (n + 1)).windows later entry present).trans (tickStore.windows entry present)
  rcases (matchPlayers_pairing (choices 0).now (meanwhile 0 store).queue).run undisturbed
    (fun n cmd _ _ tickStore allowed => tickStore.answered cmd (choices (n + 1)) allowed)
    started with ⟨_, pairs, tickStore, passes⟩
  refine ⟨joinOrder (meanwhile 0 store).queue, pairs, tickStore.made, ?_⟩
  apply tickPairing_of_isGreedy
  rw [passes finishes]
  apply greedy_isGreedy
  exact ((joinOrder_stable _).perm.map _).nodup_iff.mpr (meanwhile 0 store).queue.users_nodup

end Stores

def sampleQueue : Queue where
  entries := [⟨0, "a", 1000, 0⟩, ⟨1, "b", 1100, 1⟩, ⟨2, "c", 1900, 2⟩]
  nextId := 3
  users_nodup := by decide
  ids_nodup := by decide
  ids_lt := by decide

def sampleStore : Store := { freshServer.store with queue := sampleQueue }

theorem sample_tick_pairs_correctly :
    ∃ order pairs,
      passed (tick.run handle (fun _ store => store) (fun _ => default) sampleStore).2.log =
          passed sampleStore.log ++ pairs ∧
        TickPairing (default : Choice).now sampleQueue order pairs := by
  have alone (_ : ℕ) : NoOtherTick sampleQueue fun store => store :=
    ⟨fun _ _ _ => rfl, fun _ => rfl⟩
  have finishes : (tick.run handle (fun _ store => store) (fun _ => default) sampleStore).1 =
      .ok () := rfl
  exact tick_pairs_correctly rfl alone finishes

end CodeClash.Matchmaking
