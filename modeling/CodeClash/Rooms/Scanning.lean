import CodeClash.Rooms.Agreement
import CodeClash.Rooms.Matchmaking

/-!
# What a scan of the queue does

A scan is to match two users who fit, and to take only those out of the queue who get a room. It
does neither. The comparison throws for any two entries, so a queue with two entries is never
sorted, and the only command of a scan is the one that reads the queue.
-/

namespace CodeClash.Rooms.Matchmaking

open Async Throwing

section Sorting

variable {α ε : Type} {compare : α → α → Except ε ℤ} {error : ε}

theorem insertBy_of_throws (throws : ∀ first second, compare first second = .error error)
    (item other : α) (others : List α) :
    insertBy compare item (other :: others) = .error error := by
  rw [insertBy, throws]
  rfl

theorem sortBy_of_throws (throws : ∀ first second, compare first second = .error error)
    (items : List α) (several : 2 ≤ items.length) : sortBy compare items = .error error := by
  induction items with
  | nil => simp at several
  | cons item items ih =>
    rcases items with _ | ⟨other, _ | ⟨_, _⟩⟩
    · simp at several
    · exact insertBy_of_throws throws item other []
    · rw [sortBy, ih (by simp)]
      rfl

end Sorting

theorem compareJoined_throws (first second : StoredEntry) :
    compareJoined first second = .error .typeError :=
  rfl

theorem scanForMatches_uses (eloWindowMultiplier : ℚ) :
    (scanForMatches eloWindowMultiplier).run.Uses (fun cmd => cmd = Cmd.zrange) := by
  refine Program.uses_bind (uses_bind ?_ fun queueEntries => ?_) fun outcome => ?_
  · exact uses_attempt (Program.uses_perform rfl)
  · split
    · trivial
    · rename_i several
      rw [sortBy_of_throws compareJoined_throws queueEntries (Nat.le_of_not_lt several)]
      trivial
  · cases outcome with
    | ok => trivial
    | error => trivial

theorem handle_zrange (choice : Choice) (store : Store) : (handle .zrange choice store).2 = store :=
  ite_self store

theorem scanForMatches_unchanged (eloWindowMultiplier : ℚ) (choices : ℕ → Choice) (store : Store) :
    (runAlone (scanForMatches eloWindowMultiplier) choices store).2 = store := by
  refine (scanForMatches_uses eloWindowMultiplier).run_invariant (fun reached => reached = store)
    (fun _ _ same => same) ?_ rfl
  rintro _ rfl _ _ same
  rw [handle_zrange, same]

/-- Two users of the queue fit, and their ratings differ by less than the window. -/
def Matchable (queue : List StoredEntry) (currentEloWindow : ℚ) : Prop :=
  ∃ first ∈ queue, ∃ second ∈ queue, first.userId ≠ second.userId ∧
    arePlayersCompatible first second ∧ |(first.elo : ℚ) - second.elo| < currentEloWindow

def Created (before after : Store) (roomId : RoomId) : Prop :=
  before.rooms.rooms roomId = none ∧ after.rooms.rooms roomId ≠ none

def Includes (participants : Participants) (userId : UserId) : Prop :=
  participants.player1.userId = userId ∨ participants.player2.userId = userId

/-- A match was created, and who left the queue is in a room that was created. -/
structure Progress (before after : Store) : Prop where
  created : ∃ roomId, Created before after roomId
  seated : ∀ entry ∈ before.queue, entry ∉ after.queue → ∃ roomId participants,
    Created before after roomId ∧ after.rooms.participants roomId = some participants ∧
      Includes participants entry.userId

theorem not_progress_self (store : Store) : ¬ Progress store store := by
  intro progress
  rcases progress.created with ⟨_, absent, present⟩
  exact present absent

/-- No scan makes progress, also of a queue with two users who fit, whether a puzzle is available or
not. -/
theorem scan_makes_no_progress (eloWindowMultiplier : ℚ) (choices : ℕ → Choice) (store : Store) :
    ¬ Progress store (runAlone (scanForMatches eloWindowMultiplier) choices store).2 := by
  rw [scanForMatches_unchanged]
  exact not_progress_self store

def sampleChoice : Choice where
  room := ⟨43200000, false, "id", 0, none, []⟩
  now := 43200000
  fails := false
  freshId := "room"
  textBefore _ _ := true
  puzzle := some ⟨"two-sum", []⟩

def joinRequest (userId : UserId) (elo : ℤ) : MatchmakingRequest := ⟨userId, elo, none⟩

def joinedPair : Store :=
  let first := (runAlone (joinQueue (joinRequest "ann" 1200)) (fun _ => sampleChoice)
    ⟨emptyStore, [], []⟩).2
  (runAlone (joinQueue (joinRequest "bob" 1250)) (fun _ => sampleChoice) first).2

theorem joinedPair_queue : joinedPair.queue =
    [⟨"ann", "", 1200, ⟨43200000⟩, ⟨none, none, none⟩⟩,
      ⟨"bob", "", 1250, ⟨43200000⟩, ⟨none, none, none⟩⟩] := by
  decide +kernel

theorem joinedPair_matchable : Matchable joinedPair.queue (initialEloWindow * 1) := by
  rw [joinedPair_queue]
  refine ⟨_, List.mem_cons_self, _, List.mem_cons_of_mem _ List.mem_cons_self, ?_, rfl, ?_⟩
  · decide
  · norm_num [initialEloWindow]

theorem joined_pair_gets_no_match :
    Matchable joinedPair.queue (initialEloWindow * 1) ∧
      ¬ Progress joinedPair (runAlone (scanForMatches 1) (fun _ => sampleChoice) joinedPair).2 :=
  ⟨joinedPair_matchable, scan_makes_no_progress 1 _ _⟩

/-- Both users wait on and get no room, although they fit and a puzzle is available. -/
theorem joined_pair_waits_on :
    Matchable joinedPair.queue (initialEloWindow * 1) ∧
      (runAlone (scanForMatches 1) (fun _ => sampleChoice) joinedPair).2.queue.map
        QueueEntry.userId = ["ann", "bob"] ∧
      ∀ roomId, (runAlone (scanForMatches 1) (fun _ => sampleChoice) joinedPair).2.rooms.rooms
        roomId = none := by
  rw [scanForMatches_unchanged]
  exact ⟨joinedPair_matchable, by rw [joinedPair_queue]; rfl, fun _ => rfl⟩

end CodeClash.Rooms.Matchmaking
