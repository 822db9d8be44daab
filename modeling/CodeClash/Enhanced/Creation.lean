import CodeClash.Enhanced.Matchmaking

/-!
# From a match to a battle

`findMatch` takes both players of a match out of the queue, and `createBattle` is to store a battle
for them. The puzzles of their recent battles are collected from an array of one query result, which
is taken apart as if there were two. Spreading the missing second result throws.
-/

namespace CodeClash.Enhanced.Matchmaking

open Async Keys Program

def Store.lastPuzzles (store : Store) (userId : UserId) : List PuzzleId :=
  ((store.battles.filter fun battle =>
    battle.player1Id = userId || battle.player2Id = userId).take 5).map fun battle =>
      battle.puzzleId

def Store.IsNew (store : Store) (found : Match) (puzzleId : PuzzleId) : Prop :=
  puzzleId ∉ store.lastPuzzles found.player1 ∧ puzzleId ∉ store.lastPuzzles found.player2

structure Ready (found : Match) (store : Store) : Prop where
  player1 : (store.users found.player1).isSome
  player2 : (store.users found.player2).isSome
  puzzle : store.activePuzzles (getMatchDifficulty found.player1 found.player2) ≠ []

/-- A battle of the two players was added, both have all hit points in its state, and its puzzle
is new to both if there is such a puzzle. -/
def Created (found : Match) (before after : Store) : Prop :=
  ∃ (battle : Battle) (state : BattleState) (expiresAt : ℤ),
    battle ∈ after.battles ∧ battle ∉ before.battles ∧
    battle.player1Id = found.player1 ∧ battle.player2Id = found.player2 ∧
    after.states battle.roomId = some ⟨state.stringify, expiresAt⟩ ∧
    state.player1.hp = some 100 ∧ state.player2.hp = some 100 ∧
    ((∃ puzzle ∈ before.activePuzzles (getMatchDifficulty found.player1 found.player2),
      before.IsNew found puzzle.id) → before.IsNew found battle.puzzleId)

def Requeued (found : Match) (store : Store) : Prop :=
  (store.queue.find found.player1).isSome ∧ (store.queue.find found.player2).isSome

/-- What `createBattle` owes a match: a battle, or the players' places in the queue. -/
structure Serves (found : Match) (before : Store) (outcome : Except MatchError Unit)
    (after : Store) : Prop where
  created : Ready found before → Created found before after
  requeued : ∀ error, outcome = .error error → Requeued found after

def runAlone {α : Type} (program : Prog α) (choices : ℕ → Choice) (store : Store) :
    Except MatchError α × Store :=
  program.run.run handle (fun _ store => store) choices store

def queueing : Protocol signature (Ranked UserId) where
  allows _ _ := True
  expects _ _ _ := True
  after queue cmd reply :=
    match cmd, reply with
    | .zAdd userId elo, .ok _ => queue.insert userId elo
    | .zRem userId, .ok _ => queue.erase userId
    | _, _ => queue

theorem handle_queue (cmd : Cmd) (choice : Choice) (store : Store) :
    (handle cmd choice store).2.queue =
      queueing.after store.queue cmd (handle cmd choice store).1 := by
  cases cmd with
  | now => rfl
  | newRoomId => rfl
  | emitTimeout => rfl
  | emitFound => rfl
  | _ =>
    simp only [handle, answer]
    cases choice.fails <;> rfl

def Dequeued (queue : Ranked UserId) (outcome : Except MatchError (Option Match)) : Prop :=
  ∀ found, outcome = .ok (some found) →
    queue.find found.player1 = none ∧ queue.find found.player2 = none

section Dequeuing

variable {queue : Ranked UserId}

theorem dequeued_bind {α : Type} {first : Prog α} {next : α → Prog (Option Match)}
    (rest : ∀ queue value, (next value).run.Obeys queueing Dequeued queue) :
    (first >>= next).run.Obeys queueing Dequeued queue := by
  refine Throwing.obeys_bind (obeys_of_forall (fun _ _ => trivial) ?_ _ _)
  intro reached outcome
  cases outcome with
  | ok value => exact rest reached value
  | error => simp [Throwing.Continues, Dequeued]

theorem removeFromQueue_erases (userId : UserId) :
    (removeFromQueue userId).run.Obeys queueing
      (fun reached outcome => outcome = .ok () → reached = queue.erase userId) queue := by
  refine ⟨trivial, fun removed _ => ⟨trivial, fun deleted _ => ?_⟩⟩
  cases removed with
  | error =>
    cases deleted <;>
      · intro succeeded
        cases succeeded
  | ok =>
    cases deleted with
    | error =>
      intro succeeded
      cases succeeded
    | ok => exact fun _ => rfl

theorem removeBoth_erases (userId bestMatch : UserId) :
    (Throwing.all [removeFromQueue userId, removeFromQueue bestMatch]).run.Obeys queueing
      (fun reached outcome => ∀ values, outcome = .ok values →
        reached = (queue.erase userId).erase bestMatch) queue := by
  refine obeys_bind.mpr ((removeFromQueue_erases userId).mono ?_)
  intro _ outcome erased
  refine obeys_bind.mpr (obeys_bind.mpr
    ((removeFromQueue_erases bestMatch).mono ?_))
  intro _ lastOutcome lastErased _ succeeded
  cases outcome with
  | error => cases succeeded
  | ok =>
    cases lastOutcome with
    | error => cases succeeded
    | ok => rw [lastErased rfl, erased rfl]

theorem removeBoth_dequeued (userId bestMatch : UserId) :
    (do
      let _ ← Throwing.all [removeFromQueue userId, removeFromQueue bestMatch]
      return some ⟨userId, bestMatch⟩ : Prog (Option Match)).run.Obeys queueing Dequeued
        queue := by
  refine Throwing.obeys_bind ((removeBoth_erases userId bestMatch).mono ?_)
  intro _ outcome erased
  cases outcome with
  | error =>
    intro _ isFound
    cases isFound
  | ok values =>
    rintro _ ⟨⟩
    rw [erased values rfl]
    simp [Table.find_erase]

theorem matchUsers_dequeued (options : MatchmakingOptions) (queuedUsers users : List UserId) :
    (matchUsers options queuedUsers users).run.Obeys queueing Dequeued queue := by
  induction users generalizing queue with
  | nil =>
    intro found isFound
    cases isFound
  | cons userId _ ih =>
    refine dequeued_bind fun _ userData => ?_
    split
    · exact ih
    · refine dequeued_bind fun _ now => ?_
      split
      · exact dequeued_bind fun _ _ => dequeued_bind fun _ _ => ih
      · split
        · intro _ isFound
          cases isFound
        · refine dequeued_bind fun _ opponent => ?_
          cases opponent with
          | none => exact ih
          | some bestMatch => exact removeBoth_dequeued userId bestMatch

theorem findMatch_dequeued (options : MatchmakingOptions) :
    (findMatch options).run.Obeys queueing Dequeued queue := by
  refine dequeued_bind fun _ queuedUsers => ?_
  split
  · intro _ isFound
    cases isFound
  · exact matchUsers_dequeued options queuedUsers queuedUsers

end Dequeuing

theorem dequeued_of_findMatch {options : MatchmakingOptions} {choices : ℕ → Choice}
    {store after : Store} {found : Match}
    (matched : runAlone (findMatch options) choices store = (.ok (some found), after)) :
    after.queue.find found.player1 = none ∧ after.queue.find found.player2 = none := by
  have dequeued : Dequeued (runAlone (findMatch options) choices store).2.queue
      (runAlone (findMatch options) choices store).1 :=
    (findMatch_dequeued options).run_alone fun _ cmd store _ => ⟨trivial, handle_queue cmd _ store⟩
  rw [matched] at dequeued
  exact dequeued found rfl

def Cmd.IsQuery : Cmd → Prop
  | .newRoomId | .findUser _ | .findRecent _ _ => True
  | _ => False

def querying : Protocol signature Unit where
  allows _ cmd := cmd.IsQuery
  expects _ _ _ := True
  after _ _ _ := ()

def Throws {α : Type} (_phase : Unit) (outcome : Except MatchError α) : Prop :=
  ∃ error, outcome = .error error

theorem getRecentPuzzles_throws (player1Id player2Id : UserId) :
    (getRecentPuzzles player1Id player2Id).run.Obeys querying Throws () := by
  refine ⟨trivial, fun recent _ => ?_⟩
  cases recent with
  | error => exact ⟨.rejected, rfl⟩
  | ok => exact ⟨.typeError, rfl⟩

theorem throws_bind {α β : Type} {first : Prog α} {next : α → Prog β}
    (throws : first.run.Obeys querying Throws ()) :
    (first >>= next).run.Obeys querying Throws () := by
  refine Throwing.obeys_bind (throws.mono ?_)
  rintro _ _ ⟨error, rfl⟩
  exact ⟨error, rfl⟩

theorem selectPuzzle_throws (player1Id player2Id : UserId) :
    (selectPuzzle player1Id player2Id).run.Obeys querying Throws () :=
  throws_bind (getRecentPuzzles_throws player1Id player2Id)

theorem tryCreateBattle_throws (player1Id player2Id : UserId) :
    (tryCreateBattle player1Id player2Id).run.Obeys querying Throws () := by
  refine ⟨trivial, fun roomId _ => ⟨trivial, fun player1 _ => ⟨trivial, fun player2 _ => ?_⟩⟩⟩
  rcases player1 with failure | _ | _
  · rcases player2 with failure | player2 <;> exact ⟨.rejected, rfl⟩
  · rcases player2 with failure | player2
    · exact ⟨.rejected, rfl⟩
    · exact ⟨.playerNotFound, rfl⟩
  · rcases player2 with _ | _ | _
    · exact ⟨.rejected, rfl⟩
    · exact ⟨.playerNotFound, rfl⟩
    · exact throws_bind (selectPuzzle_throws player1Id player2Id)

theorem handle_query {cmd : Cmd} (isQuery : cmd.IsQuery) (choice : Choice) (store : Store) :
    (handle cmd choice store).2 = store := by
  cases cmd <;> first | rfl | exact isQuery.elim

theorem runAlone_of_querying {α : Type} {program : Prog α}
    {post : Unit → Except MatchError α → Prop} (obeys : program.run.Obeys querying post ())
    (choices : ℕ → Choice) (store : Store) :
    post () (runAlone program choices store).1 ∧ (runAlone program choices store).2 = store := by
  rcases obeys.run (fun _ current (_ : Unit) (same : current = store) => same)
    (fun n cmd current _ same allowed =>
      ⟨trivial, (handle_query allowed (choices n) current).trans same⟩) rfl with
    ⟨_, _, same, holds⟩
  exact ⟨holds, same⟩

theorem createBattle_queries (player1Id player2Id : UserId) :
    (createBattle player1Id player2Id).run.Obeys querying (fun _ _ => True) () := by
  refine obeys_bind.mpr ((tryCreateBattle_throws player1Id player2Id).mono ?_)
  rintro _ _ ⟨_, rfl⟩
  trivial

/--
Whatever the database answers, `createBattle` fails after each match that was found: no battle of
the two players is created, and neither of them is back in the queue.
-/
theorem match_is_never_served {options : MatchmakingOptions} {choices : ℕ → Choice}
    {store before : Store} {found : Match}
    (matched : runAlone (findMatch options) choices store = (.ok (some found), before))
    (later : ℕ → Choice) :
    ¬Created found before (runAlone (createBattle found.player1 found.player2) later before).2 ∧
    ¬Requeued found (runAlone (createBattle found.player1 found.player2) later before).2 ∧
    ¬Serves found before (runAlone (tryCreateBattle found.player1 found.player2) later before).1
      (runAlone (createBattle found.player1 found.player2) later before).2 := by
  rcases dequeued_of_findMatch matched with ⟨dequeued, _⟩
  rcases (runAlone_of_querying (tryCreateBattle_throws found.player1 found.player2) later
    before).1 with ⟨error, failed⟩
  have unchanged :=
    (runAlone_of_querying (createBattle_queries found.player1 found.player2) later before).2
  have notRequeued :
      ¬Requeued found (runAlone (createBattle found.player1 found.player2) later before).2 := by
    rintro ⟨queued, _⟩
    rw [unchanged, dequeued] at queued
    cases queued
  refine ⟨?_, notRequeued, fun serves => notRequeued (serves.requeued error failed)⟩
  rintro ⟨_, _, _, added, isNew, _⟩
  rw [unchanged] at added
  exact isNew added

def sampleStore : Store where
  queue := (Table.ofKeys ["ann", "bob"] (by decide) fun _ => 1200)
  hashes userId := if userId = "ann" ∨ userId = "bob" then
    some ⟨⟨some userId, some "socket", some 1200, some 0, some 100, some 0⟩, some 300000⟩ else none
  states _ := none
  users userId := some ⟨userId, userId, 1200, none⟩
  puzzles := [⟨"two-sum", 1, "medium", true, 0⟩]
  battles := []

def sampleChoices : ℕ → Choice := fun _ => ⟨1000, false, "battle_1000"⟩

def sampleMatched : Store := (runAlone (findMatch DEFAULT_OPTIONS) sampleChoices sampleStore).2

theorem sample_matched :
    runAlone (findMatch DEFAULT_OPTIONS) sampleChoices sampleStore =
      (.ok (some ⟨"bob", "ann"⟩), sampleMatched) :=
  Prod.ext (by decide +kernel) rfl

/-- Nothing fails outside of the service, and both players are left without a battle and without
their places in the queue. -/
theorem matched_players_are_dropped :
    Ready ⟨"bob", "ann"⟩ sampleMatched ∧
    (runAlone (createBattle "bob" "ann") sampleChoices sampleMatched).2.battles = [] ∧
    (runAlone (createBattle "bob" "ann") sampleChoices sampleMatched).2.queue.keys = [] := by
  refine ⟨⟨?_, ?_, ?_⟩, ?_, ?_⟩ <;> decide +kernel

theorem sample_match_not_served :
    ¬Serves ⟨"bob", "ann"⟩ sampleMatched
      (runAlone (tryCreateBattle "bob" "ann") sampleChoices sampleMatched).1
      (runAlone (createBattle "bob" "ann") sampleChoices sampleMatched).2 :=
  (match_is_never_served sample_matched sampleChoices).2.2

end CodeClash.Enhanced.Matchmaking
