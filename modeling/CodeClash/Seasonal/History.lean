import CodeClash.Seasonal.Service
import Mathlib.Data.List.Induction

/-!
# The history of ratings

A snapshot is pushed to the front of the list in Redis and cut off after a hundred entries. The
database returns the rows oldest first, and a read that finds no list pushes what it has read entry
by entry. After the list was lost, it also lacks the snapshots from before.
-/

namespace CodeClash.Seasonal

open Async Keys Services.Backend Function

/-- A call of `recordEloSnapshot`: the rating of the user and the battle, and the clock at each
command of the call. -/
structure Recording where
  elo : ℤ
  battleId : Option BattleId
  clock : ℕ → ℤ

namespace Recording

def choices (recording : Recording) (n : ℕ) : Choice := ⟨recording.clock n, false⟩

def createdAt (recording : Recording) : ℤ := recording.clock 1

def row (recording : Recording) (userId : UserId) (seasonId : SeasonId) : EloHistory :=
  ⟨⟨recording.elo, recording.createdAt, recording.battleId⟩, userId, seasonId⟩

def entry (recording : Recording) : Entry :=
  ⟨recording.elo, recording.clock 3, recording.battleId⟩

def rated (recording : Recording) : ℤ × Option BattleId := (recording.elo, recording.battleId)

end Recording

def Entry.rated (entry : Entry) : ℤ × Option BattleId := (entry.elo, entry.battleId)

section History

variable (userId : UserId) (seasonId : SeasonId)

def Store.setSeasonElo (store : Store) (seasonElo : ℤ) : Store :=
  { store with users := store.users.modify userId fun user => { user with seasonElo := seasonElo } }

def record (store : Store) (recording : Recording) : Store :=
  (backend.alone recording.choices (recordEloSnapshot (some seasonId) userId recording.battleId)
    (store.setSeasonElo userId recording.elo)).2

def recordAll (store : Store) (recordings : List Recording) : Store :=
  recordings.foldl (record userId seasonId) store

def evict (store : Store) : Store := store.setList (historyKey userId seasonId) []

/-- All snapshots are taken, and after the first few the list in Redis is lost. -/
def recordEvicted (recordings : List Recording) (evictedAfter : ℕ) (store : Store) : Store :=
  recordAll userId seasonId
    (evict userId seasonId (recordAll userId seasonId store (recordings.take evictedAfter)))
    (recordings.drop evictedAfter)

/-- A call of `getEloHistory`, which does not read the clock. -/
def read (store : Store) : List Entry × Store :=
  backend.alone (fun _ => ⟨0, false⟩) (getEloHistory (some seasonId) userId) store

def reread : ℕ → Store → List (ℤ × Option BattleId)
  | 0, store => (read userId seasonId store).1.map Entry.rated
  | before + 1, store => reread before (read userId seasonId store).2

variable {userId : UserId} {seasonId : SeasonId} {store : Store} {recordings : List Recording}

theorem Recording.works (recording : Recording) : backend.Works recording.choices :=
  fun _ _ => rfl

variable {user : User}

theorem find_setSeasonElo (found : store.users.find userId = some user) (seasonElo : ℤ) :
    (store.setSeasonElo userId seasonElo).users.find userId =
      some { user with seasonElo := seasonElo } := by
  refine (Table.find_modify_self _ _).trans ?_
  rw [found]
  rfl

def Store.recorded (userId : UserId) (seasonId : SeasonId) (store : Store)
    (recording : Recording) : Store :=
  { (store.setSeasonElo userId recording.elo).setList (historyKey userId seasonId)
      ((recording.entry :: store.lists (historyKey userId seasonId)).take 100) with
    eloHistory := store.eloHistory ++ [recording.row userId seasonId] }

theorem record_eq (found : store.users.find userId = some user) (recording : Recording) :
    record userId seasonId store recording = store.recorded userId seasonId recording := by
  have works := recording.works
  have rated : Cmd.read (store.setSeasonElo userId recording.elo) (.findSeasonElo userId) =
      some recording.elo := by
    simp only [Cmd.read, find_setSeasonElo found, Option.map_some]
  have ends : backend.alone recording.choices
      (takeSnapshot seasonId userId recording.battleId).run
      (store.setSeasonElo userId recording.elo) =
        (.ok (), store.recorded userId seasonId recording) := by
    rw [takeSnapshot, alone_call_bind works, backend_value, rated,
      alone_ask_sense_bind,
      alone_call_bind works.later.later,
      alone_ask_sense_bind,
      alone_call_bind works.later.later.later.later,
      alone_call_bind works.later.later.later.later.later,
      alone_call works.later.later.later.later.later.later]
    simp only [backend_write, Cmd.write, Store.setList, update_self, Function.update_idem,
      List.drop_zero]
    rfl
  exact congrArg Prod.snd (alone_caught ends)

structure Recorded (userId : UserId) (seasonId : SeasonId) (recordings : List Recording)
    (before after : Store) : Prop where
  user : ∃ user, after.users.find userId = some user
  rows : after.eloHistory =
    before.eloHistory ++ recordings.map fun recording => recording.row userId seasonId
  cached : before.lists (historyKey userId seasonId) = [] →
    after.lists (historyKey userId seasonId) = (recordings.map Recording.entry).reverse.take 100

theorem recordAll_recorded (exists? : ∃ user, store.users.find userId = some user)
    (recordings : List Recording) :
    Recorded userId seasonId recordings store (recordAll userId seasonId store recordings) := by
  induction recordings using List.reverseRecOn with
  | nil => exact ⟨exists?, (List.append_nil _).symm, id⟩
  | append_singleton _ recording ih =>
    rcases ih.user with ⟨_, found⟩
    rw [recordAll, List.foldl_append, List.foldl_cons, List.foldl_nil, ← recordAll,
      record_eq found]
    refine ⟨⟨_, find_setSeasonElo found recording.elo⟩, ?_, ?_⟩
    · rw [List.map_append, ← List.append_assoc, ← ih.rows]
      rfl
    · intro empty
      refine (update_self _ _ _).trans ?_
      rw [ih.cached empty, List.map_append, List.reverse_append]
      exact congrArg (recording.entry :: ·) (List.take_take.trans rfl)

theorem recordEvicted_recorded (exists? : ∃ user, store.users.find userId = some user)
    (evictedAfter : ℕ) :
    let after := recordEvicted userId seasonId recordings evictedAfter store
    after.eloHistory =
        store.eloHistory ++ recordings.map (fun recording => recording.row userId seasonId) ∧
      after.lists (historyKey userId seasonId) =
        ((recordings.drop evictedAfter).map Recording.entry).reverse.take 100 := by
  have early := @recordAll_recorded userId seasonId store exists? (recordings.take evictedAfter)
  have late := @recordAll_recorded userId seasonId (evict userId seasonId _) early.user
    (recordings.drop evictedAfter)
  refine ⟨?_, late.cached (update_self _ _ _)⟩
  refine late.rows.trans ?_
  change (recordAll userId seasonId store (recordings.take evictedAfter)).eloHistory ++ _ = _
  rw [early.rows, List.append_assoc, ← List.map_append, List.take_append_drop]

theorem reading_works : backend.Works fun _ : ℕ => ⟨0, false⟩ := fun _ _ => rfl

theorem alone_cacheResults {choices : ℕ → Choice} (works : backend.Works choices)
    (key : String) (history : List Entry) :
    backend.alone choices (cacheResults key history).run store =
      (.ok (), store.setList key (history.reverse ++ store.lists key)) := by
  induction history generalizing choices store with
  | nil =>
    rw [cacheResults, alone_pure]
    simp [Store.setList]
  | cons _ _ ih =>
    rw [cacheResults, alone_call_bind works, ih works.later]
    simp [Cmd.write, Store.setList]

theorem read_cached (cached : store.lists (historyKey userId seasonId) ≠ []) :
    read userId seasonId store = (store.lists (historyKey userId seasonId), store) := by
  have ends : backend.alone (fun _ => ⟨0, false⟩) (readHistory seasonId userId).run store =
      (.ok (store.lists (historyKey userId seasonId)), store) := by
    have hit : (Cmd.read store (.lRange (historyKey userId seasonId))).length > 0 :=
      List.length_pos_iff.mpr cached
    rw [readHistory, alone_call_bind reading_works, backend_value, if_pos hit]
    rfl
  exact alone_caught ends

theorem read_missing (missing : store.lists (historyKey userId seasonId) = []) :
    read userId seasonId store =
      ((store.history userId seasonId).map EloHistory.toEntry,
        store.setList (historyKey userId seasonId)
          ((store.history userId seasonId).map EloHistory.toEntry).reverse) := by
  have ends : backend.alone (fun _ => ⟨0, false⟩) (readHistory seasonId userId).run store =
      (.ok ((store.history userId seasonId).map EloHistory.toEntry),
        store.setList (historyKey userId seasonId)
          ((store.history userId seasonId).map EloHistory.toEntry).reverse) := by
    have miss : ¬(Cmd.read store (.lRange (historyKey userId seasonId))).length > 0 :=
      fun hit => List.length_pos_iff.mp hit missing
    have cached := @alone_cacheResults store _ reading_works (historyKey userId seasonId)
      ((store.history userId seasonId).map EloHistory.toEntry)
    rw [missing, List.append_nil] at cached
    rcases alone_bind cached fun _ => do
      call (.expire (historyKey userId seasonId) (86400 * 30))
      return (store.history userId seasonId).map EloHistory.toEntry with ⟨_, rest⟩
    rw [alone_call_bind reading_works] at rest
    rw [readHistory, alone_call_bind reading_works, backend_value, if_neg miss,
      alone_call_bind reading_works]
    exact rest
  exact alone_caught ends

def Store.cachedRatings (userId : UserId) (seasonId : SeasonId) (store : Store) :
    List (ℤ × Option BattleId) :=
  (store.lists (historyKey userId seasonId)).map Entry.rated

def Store.storedRatings (userId : UserId) (seasonId : SeasonId) (store : Store) :
    List (ℤ × Option BattleId) :=
  ((store.history userId seasonId).map EloHistory.toEntry).map Entry.rated

theorem reread_cached (cached : store.lists (historyKey userId seasonId) ≠ []) (before : ℕ) :
    reread userId seasonId before store = store.cachedRatings userId seasonId := by
  induction before with
  | zero => rw [reread, read_cached cached, Store.cachedRatings]
  | succ _ ih => rw [reread, read_cached cached, ih]

theorem reread_missing_zero (missing : store.lists (historyKey userId seasonId) = []) :
    reread userId seasonId 0 store = store.storedRatings userId seasonId := by
  rw [reread, read_missing missing, Store.storedRatings]

theorem reread_empty (missing : store.lists (historyKey userId seasonId) = [])
    (empty : store.history userId seasonId = []) (before : ℕ) :
    reread userId seasonId before store = [] := by
  have same : read userId seasonId store = ([], store) := by
    rw [read_missing missing, empty, List.map_nil, List.reverse_nil, Store.setList, ← missing,
      Function.update_eq_self]
  induction before with
  | zero => rw [reread, same, List.map_nil]
  | succ _ ih => rw [reread, same, ih]

theorem reread_missing_succ (missing : store.lists (historyKey userId seasonId) = [])
    (before : ℕ) :
    reread userId seasonId (before + 1) store =
      (store.storedRatings userId seasonId).reverse := by
  rw [Store.storedRatings]
  by_cases empty : store.history userId seasonId = []
  · rw [reread_empty missing empty, empty]
    rfl
  · have cached : (store.setList (historyKey userId seasonId)
        ((store.history userId seasonId).map EloHistory.toEntry).reverse).lists
          (historyKey userId seasonId) =
            ((store.history userId seasonId).map EloHistory.toEntry).reverse :=
      update_self _ _ _
    have isCached := cached ▸ List.reverse_ne_nil_iff.mpr (mt List.map_eq_nil_iff.mp empty)
    have later := reread_cached isCached before
    rw [Store.cachedRatings, cached, List.map_reverse] at later
    rw [reread, read_missing missing]
    exact later

variable (userId seasonId) in
def Agrees (store : Store) : Prop :=
  ∀ before, reread userId seasonId before store =
    reread userId seasonId 0 (evict userId seasonId store)

theorem agrees_iff :
    Agrees userId seasonId store ↔
      if store.cachedRatings userId seasonId = [] then
        (store.storedRatings userId seasonId).reverse = store.storedRatings userId seasonId
      else store.cachedRatings userId seasonId = store.storedRatings userId seasonId := by
  have database : reread userId seasonId 0 (evict userId seasonId store) =
      store.storedRatings userId seasonId := reread_missing_zero (update_self _ _ _)
  rw [Agrees, database]
  split_ifs with missing
  · have isMissing := List.map_eq_nil_iff.mp missing
    constructor
    · intro agrees
      rw [← reread_missing_succ isMissing 0, agrees 1]
    · intro same before
      cases before with
      | zero => exact reread_missing_zero isMissing
      | succ before => exact (reread_missing_succ isMissing before).trans same
  · have isCached : store.lists (historyKey userId seasonId) ≠ [] := by
      intro empty
      exact missing (List.map_eq_nil_iff.mpr empty)
    constructor
    · intro agrees
      rw [← reread_cached isCached 0, agrees 0]
    · intro same before
      exact (reread_cached isCached before).trans same

theorem cutOff_iff {α : Type} {entries : List α} {lost limit : ℕ} (within : lost ≤ entries.length)
    (positive : 0 < limit) :
    (if ((entries.drop lost).reverse.take limit) = [] then entries.reverse = entries
      else (entries.drop lost).reverse.take limit = entries) ↔
      entries.reverse = entries ∧
        (lost = entries.length ∨ lost = 0 ∧ entries.length ≤ limit) := by
  by_cases all : lost = entries.length
  · simp [all]
  · have some? : (entries.drop lost).reverse.take limit ≠ [] := by
      rw [← List.length_pos_iff, List.length_take, List.length_reverse, List.length_drop]
      omega
    rw [if_neg some?]
    constructor
    · intro same
      have lengths := congrArg List.length same
      rw [List.length_take, List.length_reverse, List.length_drop] at lengths
      have early : lost = 0 := by omega
      have short : entries.length ≤ limit := by omega
      subst early
      rw [List.drop_zero, List.take_of_length_le (by simpa using short)] at same
      exact ⟨same, Or.inr ⟨rfl, short⟩⟩
    · rintro ⟨same, ended | ⟨rfl, short⟩⟩
      · exact absurd ended all
      · rw [List.drop_zero, List.take_of_length_le (by simpa using short), same]

theorem history_eq {before after : Store}
    (rows : after.eloHistory =
      before.eloHistory ++ recordings.map fun recording => recording.row userId seasonId)
    (unseen : ∀ row ∈ before.eloHistory, ¬(row.userId = userId ∧ row.seasonId = seasonId))
    (ordered : (recordings.map Recording.createdAt).Pairwise (· ≤ ·)) :
    after.history userId seasonId =
      recordings.map fun recording => recording.row userId seasonId := by
  have others : before.eloHistory.filter
      (fun row => row.userId = userId && row.seasonId = seasonId) = [] := by
    simpa using unseen
  have own : (recordings.map fun recording => recording.row userId seasonId).filter
      (fun row => row.userId = userId && row.seasonId = seasonId) =
        recordings.map fun recording => recording.row userId seasonId := by
    simp [Recording.row]
  rw [Store.history, rows, List.filter_append, others, own, List.nil_append]
  apply List.Pairwise.insertionSort_eq
  rw [List.pairwise_map] at ordered ⊢
  exact ordered

/--
After the snapshots of a user who had none, with the list in Redis lost at some point, all calls of
`getEloHistory` return what the database has exactly if the snapshots are the same in both
directions and the list was lost after the last one, or before the first of at most a hundred.
-/
theorem getEloHistory_agrees_iff {evictedAfter : ℕ}
    (exists? : ∃ user, store.users.find userId = some user)
    (unseen : ∀ row ∈ store.eloHistory, ¬(row.userId = userId ∧ row.seasonId = seasonId))
    (ordered : (recordings.map Recording.createdAt).Pairwise (· ≤ ·))
    (within : evictedAfter ≤ recordings.length) :
    Agrees userId seasonId (recordEvicted userId seasonId recordings evictedAfter store) ↔
      (recordings.map Recording.rated).reverse = recordings.map Recording.rated ∧
        (evictedAfter = recordings.length ∨ evictedAfter = 0 ∧ recordings.length ≤ 100) := by
  rcases @recordEvicted_recorded userId seasonId store recordings exists? evictedAfter with
    ⟨rows, cached⟩
  have stored : (recordEvicted userId seasonId recordings evictedAfter store).storedRatings
      userId seasonId = recordings.map Recording.rated := by
    rw [Store.storedRatings, history_eq rows unseen ordered, List.map_map, List.map_map]
    rfl
  have front : (recordEvicted userId seasonId recordings evictedAfter store).cachedRatings
      userId seasonId = ((recordings.map Recording.rated).drop evictedAfter).reverse.take 100 := by
    rw [Store.cachedRatings, cached, List.map_take, List.map_reverse, List.map_map, ← List.map_drop]
    rfl
  have cut := @cutOff_iff _ (recordings.map Recording.rated) evictedAfter 100
    (by simpa using within) (by decide)
  rw [List.length_map] at cut
  rw [agrees_iff, stored, front, cut]

end History

def sampleStore : Store where
  users := Table.ofKeys ["user"] (List.nodup_singleton _) fun _ => ⟨1000, 1000⟩
  eloHistory := []
  lists _ := []

theorem sampleStore_user : ∃ user, sampleStore.users.find "user" = some user :=
  ⟨⟨1000, 1000⟩, rfl⟩

theorem getEloHistory_agrees_back_and_forth :
    Agrees "user" "season"
      (recordEvicted "user" "season" [⟨1016, none, fun _ => 5⟩, ⟨1000, some "battle", fun _ => 7⟩,
        ⟨1016, none, fun _ => 9⟩] 0 sampleStore) :=
  (getEloHistory_agrees_iff sampleStore_user (fun _ row => absurd row List.not_mem_nil)
    (by decide) (Nat.zero_le _)).mpr ⟨rfl, Or.inr ⟨rfl, by decide⟩⟩

def sampleHistory : Store :=
  recordEvicted "user" "season"
    [⟨1016, some "first", fun _ => 5⟩, ⟨1032, some "second", fun _ => 9⟩] 0 sampleStore

/-- They are returned newest first from Redis and oldest first from the database. -/
theorem getEloHistory_two_orders :
    reread "user" "season" 0 sampleHistory = [(1032, some "second"), (1016, some "first")] ∧
      reread "user" "season" 0 (evict "user" "season" sampleHistory) =
        [(1016, some "first"), (1032, some "second")] ∧
      reread "user" "season" 1 (evict "user" "season" sampleHistory) =
        [(1032, some "second"), (1016, some "first")] ∧
      ¬Agrees "user" "season" sampleHistory := by
  refine ⟨by decide +kernel, by decide +kernel, by decide +kernel, ?_⟩
  intro agrees
  exact absurd (agrees 0) (by decide +kernel)

end CodeClash.Seasonal
