import CodeClash.Api.Battle
import CodeClash.Keys.Ranked
import CodeClash.Pairing.Nearest
import Mathlib.Algebra.Order.Group.Abs
import Mathlib.Algebra.Order.Group.Int

/-!
# Matchmaking of the API service

The pairs that a round of `apps/api/src/services/matchmakingService.ts` makes. Two players may be
paired if their ratings differ by at most both windows, which grow with the time in the queue. The
inner loop of `findMatches` is a search for the nearest partner, and the outer loop is a scan.
-/

namespace CodeClash.Api.Matchmaking

open Keys Pairing

structure QueuedPlayer where
  value : UserId
  score : ℤ
deriving DecidableEq, Repr

def INITIAL_ELO_WINDOW : ℤ := 200
def ELO_WINDOW_EXPANSION : ℤ := 50
def EXPANSION_INTERVAL : ℤ := 10000

/-- The window of a player who has a time of joining, which counts if it is not zero. -/
def windowSize (currentTime : ℤ) (waitTime : Option ℤ) : ℤ :=
  match waitTime.filter (· ≠ 0) with
  | some waitTime =>
    let timeInQueue := currentTime - waitTime
    let expansions := timeInQueue / EXPANSION_INTERVAL
    INITIAL_ELO_WINDOW + expansions * ELO_WINDOW_EXPANSION
  | none => INITIAL_ELO_WINDOW

def playerWindowsAt (currentTime : ℤ) (queueWaitTime : UserId → Option ℤ)
    (queuedPlayers : List QueuedPlayer) (userId : UserId) : Option ℤ :=
  if userId ∈ queuedPlayers.map QueuedPlayer.value then
    some (windowSize currentTime (queueWaitTime userId))
  else none

/-- A window that is missing or zero counts as the initial one. -/
def eloWindow (playerWindows : UserId → Option ℤ) (player : QueuedPlayer) : ℤ :=
  ((playerWindows player.value).filter (· ≠ 0)).getD INITIAL_ELO_WINDOW

def eloDistance (player1 player2 : QueuedPlayer) : ℤ := |player1.score - player2.score|

def WithinWindows (playerWindows : UserId → Option ℤ) (player1 player2 : QueuedPlayer) : Prop :=
  eloDistance player1 player2 ≤ eloWindow playerWindows player1 ∧
    eloDistance player1 player2 ≤ eloWindow playerWindows player2

instance (playerWindows : UserId → Option ℤ) : DecidableRel (WithinWindows playerWindows) :=
  fun _ _ => inferInstanceAs (Decidable (_ ∧ _))

def bestMatch (playerWindows : UserId → Option ℤ) : Chooser QueuedPlayer.value :=
  nearestPartner QueuedPlayer.value (WithinWindows playerWindows) eloDistance

/-- The players that are paired, in the order of the outer loop. -/
def pairPlayers (queuedPlayers : List QueuedPlayer) (playerWindows : UserId → Option ℤ) :
    List (QueuedPlayer × QueuedPlayer) :=
  scan (bestMatch playerWindows) [] queuedPlayers

def findMatches (queuedPlayers : List QueuedPlayer) (playerWindows : UserId → Option ℤ) :
    List (UserId × UserId) :=
  (pairPlayers queuedPlayers playerWindows).map fun (player1, player2) =>
    (player1.value, player2.value)

def queued (queue : Ranked UserId) : List QueuedPlayer :=
  (Ranked.ascending queue).map fun (value, score) => ⟨value, score⟩

def processMatchmaking (currentTime : ℤ) (queueWaitTime : UserId → Option ℤ)
    (queue : Ranked UserId) : List (UserId × UserId) :=
  if (queued queue).length < 2 then []
  else findMatches (queued queue) (playerWindowsAt currentTime queueWaitTime (queued queue))

variable {playerWindows : UserId → Option ℤ} {queuedPlayers : List QueuedPlayer}
  {player1 player2 : QueuedPlayer}

theorem eloWindow_of_positive
    (positive : ∀ userId window, playerWindows userId = some window → 0 < window)
    (player : QueuedPlayer) :
    eloWindow playerWindows player = (playerWindows player.value).getD 200 := by
  rw [eloWindow]
  cases found : playerWindows player.value with
  | none => rfl
  | some =>
    have isPositive := positive _ _ found
    rw [Option.filter_some_pos (by simp; omega)]
    rfl

theorem WithinWindows.symm (within : WithinWindows playerWindows player1 player2) :
    WithinWindows playerWindows player2 player1 := by
  rcases within with ⟨first, second⟩
  rw [eloDistance, abs_sub_comm] at first second
  exact ⟨second, first⟩

def InBothWindows (playerWindows : UserId → Option ℤ) (player1 player2 : QueuedPlayer) : Prop :=
  |player1.score - player2.score| ≤ (playerWindows player1.value).getD 200 ∧
    |player1.score - player2.score| ≤ (playerWindows player2.value).getD 200

structure FairPairs (playerWindows : UserId → Option ℤ) (queuedPlayers : List QueuedPlayer)
    (pairs : List (QueuedPlayer × QueuedPlayer)) : Prop where
  disjoint : (keys QueuedPlayer.value pairs).Nodup
  queued : ∀ player1 player2, (player1, player2) ∈ pairs →
    player1 ∈ queuedPlayers ∧ player2 ∈ queuedPlayers
  within : ∀ player1 player2, (player1, player2) ∈ pairs →
    InBothWindows playerWindows player1 player2
  maximal : ∀ player1 ∈ queuedPlayers, ∀ player2 ∈ queuedPlayers, player1 ≠ player2 →
    player1.value ∉ keys QueuedPlayer.value pairs → player2.value ∉ keys QueuedPlayer.value pairs →
      ¬InBothWindows playerWindows player1 player2
  /-- No later player who was unused when a player was processed is closer than the partner. -/
  nearest : ∀ before player1 later player2, queuedPlayers = before ++ player1 :: later →
    (player1, player2) ∈ pairs → ∀ other ∈ later,
      other.value ∉ keys QueuedPlayer.value (madeIn QueuedPlayer.value before pairs) →
        InBothWindows playerWindows player1 other →
          |player1.score - player2.score| ≤ |player1.score - other.score|

theorem withinWindows_iff
    (positive : ∀ userId window, playerWindows userId = some window → 0 < window) :
    WithinWindows playerWindows player1 player2 ↔ InBothWindows playerWindows player1 player2 := by
  rw [WithinWindows, eloWindow_of_positive positive, eloWindow_of_positive positive]
  rfl

theorem pairPlayers_isScan (distinct : (queuedPlayers.map QueuedPlayer.value).Nodup)
    (playerWindows : UserId → Option ℤ) :
    IsScan (bestMatch playerWindows) queuedPlayers (pairPlayers queuedPlayers playerWindows) :=
  scan_isScan distinct

theorem isBest_of_bestMatch {taken : List UserId} {player : QueuedPlayer}
    {later : List QueuedPlayer} {best : Option QueuedPlayer}
    (found : (bestMatch playerWindows).choose taken player later = best) :
    IsBest (fun other => other.value ∉ taken ∧ WithinWindows playerWindows player other)
      (eloDistance player) later best :=
  found ▸ nearestPartner_isBest

theorem not_within_of_free (distinct : (queuedPlayers.map QueuedPlayer.value).Nodup)
    (ordered : [player1, player2].Sublist queuedPlayers)
    (free1 : player1.value ∉ keys QueuedPlayer.value (pairPlayers queuedPlayers playerWindows))
    (free2 : player2.value ∉ keys QueuedPlayer.value (pairPlayers queuedPlayers playerWindows)) :
    ¬WithinWindows playerWindows player1 player2 := by
  rcases (pairPlayers_isScan distinct playerWindows).none_of_free ordered free1 free2 with
    ⟨taken, later, present, free, none⟩
  exact fun within => isBest_of_bestMatch none player2 present ⟨free, within⟩

theorem pairPlayers_fair (distinct : (queuedPlayers.map QueuedPlayer.value).Nodup)
    (positive : ∀ userId window, playerWindows userId = some window → 0 < window) :
    FairPairs playerWindows queuedPlayers (pairPlayers queuedPlayers playerWindows) := by
  have isScan := pairPlayers_isScan distinct playerWindows
  constructor
  case disjoint => exact isScan.disjoint
  case queued =>
    intro player1 player2 paired
    have ordered := isScan.ordered player1 player2 paired
    exact ⟨ordered.subset (by simp), ordered.subset (by simp)⟩
  case within =>
    intro player1 player2 paired
    rcases scan_chosen paired with ⟨_, later, chosen⟩
    exact (withinWindows_iff positive).mp (isBest_of_bestMatch chosen).2.1.2
  case maximal =>
    intro player1 queued1 player2 queued2 differ free1 free2 within
    rw [← withinWindows_iff positive] at within
    rcases pair_sublist_of_mem queued1 queued2 differ with ordered | ordered
    · exact not_within_of_free distinct ordered free1 free2 within
    · exact not_within_of_free distinct ordered free2 free1 within.symm
  case nearest =>
    intro before player1 later player2 split paired other present free within
    have chosen := (isScan.first before player1 later split
      (isScan.free_of_paired distinct split paired) player2).mp paired
    exact (isBest_of_bestMatch chosen).2.2 other present
      ⟨free, (withinWindows_iff positive).mpr within⟩

/--
The pairs of `findMatches` are disjoint pairs of queued players within both windows, no two players
who are left could have been paired, and every partner is the nearest one that was left.
-/
theorem findMatches_fair (distinct : (queuedPlayers.map QueuedPlayer.value).Nodup)
    (positive : ∀ userId window, playerWindows userId = some window → 0 < window) :
    ∃ pairs, findMatches queuedPlayers playerWindows =
        pairs.map (fun pair => (pair.1.value, pair.2.value)) ∧
      FairPairs playerWindows queuedPlayers pairs :=
  ⟨_, rfl, pairPlayers_fair distinct positive⟩

def sampleWindows (userId : UserId) : Option ℤ := if userId = "b" then some 250 else none

theorem findMatches_fair_sample :
    ∃ pairs, findMatches [⟨"a", 1000⟩, ⟨"b", 1150⟩, ⟨"c", 1190⟩] sampleWindows =
        pairs.map (fun pair => (pair.1.value, pair.2.value)) ∧
      FairPairs sampleWindows [⟨"a", 1000⟩, ⟨"b", 1150⟩, ⟨"c", 1190⟩] pairs := by
  apply findMatches_fair (by decide)
  intro _ _ found
  rw [sampleWindows] at found
  split_ifs at found
  cases found
  decide

variable {currentTime : ℤ}

theorem windowSize_pos {waitTime : Option ℤ}
    (joined : ∀ time, waitTime = some time → time ≤ currentTime) :
    0 < windowSize currentTime waitTime := by
  rw [windowSize]
  cases found : waitTime.filter (· ≠ 0) with
  | none => exact (by decide : 0 < INITIAL_ELO_WINDOW)
  | some time =>
    have before := joined time (Option.filter_eq_some_iff.mp found).1
    simp only [INITIAL_ELO_WINDOW, ELO_WINDOW_EXPANSION, EXPANSION_INTERVAL]
    omega

theorem pairPlayers_of_few (few : queuedPlayers.length < 2)
    (playerWindows : UserId → Option ℤ) : pairPlayers queuedPlayers playerWindows = [] := by
  match queuedPlayers, few with
  | [], _ => rfl
  | [_], _ => rfl

/-- A round pairs fairly for windows that have grown with the time each player has waited. -/
theorem processMatchmaking_fair {queueWaitTime : UserId → Option ℤ}
    (joined : ∀ userId time, queueWaitTime userId = some time → time ≤ currentTime)
    (queue : Ranked UserId) :
    ∃ pairs, processMatchmaking currentTime queueWaitTime queue =
        pairs.map (fun pair => (pair.1.value, pair.2.value)) ∧
      FairPairs (playerWindowsAt currentTime queueWaitTime (queued queue)) (queued queue)
        pairs := by
  have distinct : ((queued queue).map QueuedPlayer.value).Nodup := by
    rw [queued, List.map_map]
    exact Ranked.ascending_nodup queue
  have positive (userId : UserId) (window : ℤ) (found : playerWindowsAt currentTime queueWaitTime
      (queued queue) userId = some window) : 0 < window := by
    rw [playerWindowsAt] at found
    split_ifs at found
    cases found
    exact windowSize_pos (joined userId)
  refine ⟨_, ?_, pairPlayers_fair distinct positive⟩
  rw [processMatchmaking]
  split_ifs with few
  · rw [pairPlayers_of_few few, List.map_nil]
  · rfl

theorem processMatchmaking_fair_sample :
    let queue : Ranked UserId := (Table.empty.insert "a" 1000).insert "b" 1290
    processMatchmaking 25000 (fun _ => some 5000) queue = [("a", "b")] ∧
      ∃ pairs, processMatchmaking 25000 (fun _ => some 5000) queue =
          pairs.map (fun pair => (pair.1.value, pair.2.value)) ∧
        FairPairs (playerWindowsAt 25000 (fun _ => some 5000) (queued queue)) (queued queue)
          pairs := by
  refine ⟨by decide +kernel, processMatchmaking_fair ?_ _⟩
  rintro _ _ ⟨⟩
  decide

end CodeClash.Api.Matchmaking
