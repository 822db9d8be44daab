import CodeClash.Async.Sequential
import CodeClash.Rating.Tracking

/-!
# The daily limit of battles

`canBattle` resets the counter of a player when the day is over, and does not allow a battle when it
has reached 20. The invariant compares the counter with the calls that have succeeded since the last
reset, in runs of battle calls one at a time.
-/

namespace CodeClash.Rating

open Async ANTI_FARMING_CONFIG Throwing

def Event.isReset (userId : UserId) : Event → Bool
  | .reset other _ => other = userId
  | _ => false

def Event.involves (userId : UserId) : Event → Bool
  | .succeeded winnerId loserId => winnerId = userId || loserId = userId
  | _ => false

def successes (userId : UserId) : List Event → ℕ
  | [] => 0
  | event :: log =>
    if event.isReset userId then 0
    else successes userId log + if event.involves userId then 1 else 0

def lastReset (userId : UserId) : List Event → Option ℤ
  | [] => none
  | .reset other now :: log => if other = userId then some now else lastReset userId log
  | _ :: log => lastReset userId log

/-- No part of the log without a reset of the user has more than 20 successes. -/
def WithinLimit (userId : UserId) (log : List Event) : Prop :=
  ∀ later part earlier, log = later ++ part ++ earlier →
    (∀ event ∈ part, event.isReset userId = false) →
      part.countP (Event.involves userId) ≤ 20

def DaysApart (userId : UserId) (log : List Event) : Prop :=
  ∀ later part earlier second first,
    log = later ++ .reset userId second :: (part ++ .reset userId first :: earlier) →
      (∀ event ∈ part, event.isReset userId = false) → first + dayMs < second

section Logs

variable {userId : UserId} {log : List Event} {event : Event}

variable {part earlier : List Event}

theorem countP_le_successes (split : log = part ++ earlier)
    (unreset : ∀ event ∈ part, event.isReset userId = false) :
    part.countP (Event.involves userId) ≤ successes userId log := by
  subst log
  induction part with
  | nil => exact Nat.zero_le _
  | cons event _ ih =>
    have own := unreset event List.mem_cons_self
    have rest := ih fun event member => unreset event (List.mem_cons_of_mem _ member)
    rw [List.countP_cons, List.cons_append, successes, own]
    simpa using rest

theorem WithinLimit.cons (within : WithinLimit userId log)
    (bounded : successes userId (event :: log) ≤ 20) : WithinLimit userId (event :: log) := by
  intro later part earlier split unreset
  cases later with
  | nil => exact (countP_le_successes split unreset).trans bounded
  | cons _ later =>
    simp only [List.cons_append, List.cons.injEq] at split
    exact within later part earlier split.2 unreset

theorem lastReset_of_split {first : ℤ} (split : log = part ++ .reset userId first :: earlier)
    (unreset : ∀ event ∈ part, event.isReset userId = false) :
    lastReset userId log = some first := by
  subst log
  induction part with
  | nil => simp [lastReset]
  | cons event _ ih =>
    have own := unreset event List.mem_cons_self
    have rest := ih fun event member => unreset event (List.mem_cons_of_mem _ member)
    cases event with
    | reset other =>
      have differs : other ≠ userId := by simpa [Event.isReset] using own
      simpa [lastReset, differs] using rest
    | written => exact rest
    | succeeded => exact rest

theorem DaysApart.cons (apart : DaysApart userId log)
    (late : ∀ now first, event = .reset userId now → lastReset userId log = some first →
      first + dayMs < now) : DaysApart userId (event :: log) := by
  intro later part earlier second first split unreset
  cases later with
  | nil =>
    simp only [List.nil_append, List.cons.injEq] at split
    exact late second first split.1 (lastReset_of_split split.2 unreset)
  | cons _ later =>
    simp only [List.cons_append, List.cons.injEq] at split
    exact apart later part earlier second first split.2 unreset

end Logs

def Store.battles (store : Store) (userId : UserId) : ℕ :=
  ((store.users.find userId).map User.battlesToday).getD 0

def Store.dayEnd (store : Store) (userId : UserId) : Option ℤ :=
  (store.users.find userId).map User.dailyBattleReset

structure Limited (store : Store) : Prop where
  counted : ∀ userId, successes userId store.log ≤ store.battles userId
  limited : ∀ userId, store.battles userId ≤ 20
  dayEnd : ∀ userId now, lastReset userId store.log = some now →
    store.dayEnd userId = some (now + dayMs)
  withinLimit : ∀ userId, WithinLimit userId store.log
  daysApart : ∀ userId, DaysApart userId store.log

def HasRoom (store : Store) (userId : UserId) : Prop := store.battles userId < 20

/-- A battle of the user has been counted that has not succeeded yet. -/
def IsCounted (store : Store) (userId : UserId) : Prop :=
  successes userId store.log < store.battles userId

def permitted (store : Store) : Cmd → Prop
  | .updateUser userId (.activity _) => HasRoom store userId
  | .updateUser userId (.resetDailyBattles now) =>
    ∃ dayEnd, store.dayEnd userId = some dayEnd ∧ dayEnd < now
  | .respond (.battle (.ok result)) =>
    IsCounted store result.winnerId ∧ IsCounted store result.loserId
  | _ => True

def UserUpdate.Plain : UserUpdate → Prop
  | resetDailyBattles _ | activity _ => False
  | _ => True

section Counters

variable {store : Store} {userId other : UserId} {update : UserUpdate} {user : User}

theorem battles_of_found (found : store.users.find userId = some user) :
    store.battles userId = user.battlesToday := by
  rw [Store.battles, found]
  rfl

theorem battles_updated_self (found : store.users.find userId = some user) :
    (store.updated userId update).battles userId = (update.write user).battlesToday := by
  simp [Store.battles, found]

theorem battles_updated_of_ne (differs : other ≠ userId) :
    (store.updated userId update).battles other = store.battles other := by
  simp only [Store.battles, find_updated_of_ne store differs]

theorem battles_updated_of_plain (plain : update.Plain) :
    (store.updated userId update).battles other = store.battles other := by
  by_cases same : other = userId
  · subst other
    cases found : store.users.find userId with
    | none => simp [Store.battles, found]
    | some =>
      rw [battles_updated_self found, battles_of_found found]
      cases update <;> first | rfl | exact plain.elim
  · exact battles_updated_of_ne same

theorem dayEnd_updated_of_ne (differs : other ≠ userId) :
    (store.updated userId update).dayEnd other = store.dayEnd other := by
  simp only [Store.dayEnd, find_updated_of_ne store differs]

theorem dayEnd_updated (noReset : ∀ now, update ≠ .resetDailyBattles now) :
    (store.updated userId update).dayEnd other = store.dayEnd other := by
  by_cases same : other = userId
  · subst other
    cases found : store.users.find userId with
    | none => simp [Store.dayEnd, found]
    | some =>
      simp only [Store.dayEnd, find_updated_self, found, Option.map_some, Option.some.injEq]
      cases update <;> first | rfl | exact absurd rfl (noReset _)
  · exact dayEnd_updated_of_ne same

theorem successes_updated (noReset : ∀ now, update ≠ .resetDailyBattles now) :
    successes other (store.updated userId update).log = successes other store.log ∧
      lastReset other (store.updated userId update).log = lastReset other store.log := by
  cases update with
  | resetDailyBattles now => exact absurd rfl (noReset now)
  | _ => exact ⟨rfl, rfl⟩

end Counters

section Permitted

variable {store next : Store} {userId : UserId} {update : UserUpdate} {user : User}
  (limited : Limited store)

include limited

theorem Limited.of_log_eq (log : next.log = store.log)
    (counted : ∀ userId, store.battles userId ≤ next.battles userId)
    (bounded : ∀ userId, next.battles userId ≤ 20)
    (dayEnd : ∀ userId, next.dayEnd userId = store.dayEnd userId) : Limited next := by
  refine ⟨?_, bounded, ?_, ?_, ?_⟩
  · intro userId
    rw [log]
    exact (limited.counted userId).trans (counted userId)
  · intro userId now last
    rw [log] at last
    rw [dayEnd]
    exact limited.dayEnd userId now last
  · rw [log]
    exact limited.withinLimit
  · rw [log]
    exact limited.daysApart

theorem Limited.of_event {event : Event}
    (log : next.log = event :: store.log)
    (counted : ∀ userId, successes userId (event :: store.log) ≤ next.battles userId)
    (bounded : ∀ userId, next.battles userId ≤ 20)
    (dayEnd : ∀ userId now, lastReset userId (event :: store.log) = some now →
      next.dayEnd userId = some (now + dayMs))
    (late : ∀ userId now first, event = .reset userId now →
      lastReset userId store.log = some first → first + dayMs < now) : Limited next := by
  refine ⟨?_, bounded, ?_, ?_, ?_⟩ <;> rw [log]
  · exact counted
  · exact dayEnd
  · intro userId
    exact (limited.withinLimit userId).cons ((counted userId).trans (bounded userId))
  · intro userId
    exact (limited.daysApart userId).cons (late userId)

variable {now : ℤ}

theorem Limited.reset (found : store.users.find userId = some user)
    (isPermitted : permitted store (.updateUser userId (.resetDailyBattles now))) :
    Limited (store.updated userId (.resetDailyBattles now)) := by
  have own : (store.updated userId (.resetDailyBattles now)).battles userId = 0 :=
    battles_updated_self found
  rcases isPermitted with ⟨_, ends, _⟩
  refine limited.of_event rfl ?_ ?_ ?_ ?_
  · intro other
    by_cases same : userId = other
    · simp [successes, Event.isReset, same]
    · rw [battles_updated_of_ne (Ne.symm same)]
      simpa [successes, Event.isReset, Event.involves, same] using limited.counted other
  · intro other
    by_cases same : userId = other
    · subst other
      omega
    · rw [battles_updated_of_ne (Ne.symm same)]
      exact limited.limited other
  · intro other last isLast
    by_cases same : userId = other
    · subst other
      rw [lastReset, if_pos rfl, Option.some.injEq] at isLast
      subst last
      simp [Store.dayEnd, found, UserUpdate.write]
    · rw [dayEnd_updated_of_ne (Ne.symm same)]
      rw [lastReset, if_neg same] at isLast
      exact limited.dayEnd other last isLast
  · rintro _ _ _ ⟨rfl, rfl⟩ isLast
    have known := limited.dayEnd _ _ isLast
    rw [ends, Option.some.injEq] at known
    omega

theorem Limited.activity (found : store.users.find userId = some user)
    (room : HasRoom store userId) :
    Limited (store.updated userId (.activity now)) := by
  have own : (store.updated userId (.activity now)).battles userId = store.battles userId + 1 := by
    rw [battles_updated_self found, battles_of_found found]
    rfl
  refine limited.of_log_eq rfl ?_ ?_ fun other => dayEnd_updated (fun _ => nofun)
  · intro other
    by_cases same : other = userId
    · subst other
      omega
    · rw [battles_updated_of_ne same]
  · intro other
    by_cases same : other = userId
    · subst other
      rw [own]
      exact room
    · rw [battles_updated_of_ne same]
      exact limited.limited other

theorem Limited.plain (plain : update.Plain) :
    Limited (store.updated userId update) := by
  have noReset : ∀ now, update ≠ .resetDailyBattles now := by
    rintro now rfl
    exact plain
  have bounded (other : UserId) : (store.updated userId update).battles other ≤ 20 := by
    rw [battles_updated_of_plain plain]
    exact limited.limited other
  have same (other : UserId) : (store.updated userId update).dayEnd other = store.dayEnd other :=
    dayEnd_updated noReset
  have counted (other : UserId) :
      store.battles other ≤ (store.updated userId update).battles other :=
    (battles_updated_of_plain plain).ge
  have written (rating : RatingUpdate) (log : (store.updated userId update).log =
      .written userId rating.newElo :: store.log) : Limited (store.updated userId update) := by
    refine limited.of_event log ?_ bounded ?_ (fun _ _ _ => nofun)
    · intro other
      exact (limited.counted other).trans (counted other)
    · intro other now isLast
      rw [same]
      exact limited.dayEnd other now isLast
  cases update with
  | resetDailyBattles => exact plain.elim
  | activity => exact plain.elim
  | win rating => exact written rating rfl
  | loss rating => exact written rating rfl
  | rate rating => exact written rating rfl
  | lastBattle => exact limited.of_log_eq rfl counted bounded same

theorem Limited.succeeded {winnerId loserId : UserId}
    (winner : IsCounted store winnerId) (loser : IsCounted store loserId) :
    Limited { store with log := .succeeded winnerId loserId :: store.log } := by
  refine limited.of_event rfl ?_ limited.limited limited.dayEnd (fun _ _ _ => nofun)
  intro other
  have counted := limited.counted other
  change successes other (.succeeded winnerId loserId :: store.log) ≤ store.battles other
  rw [successes]
  by_cases wins : winnerId = other
  · subst other
    simpa [Event.isReset, Event.involves] using Nat.succ_le_of_lt winner
  · by_cases loses : loserId = other
    · subst other
      simpa [Event.isReset, Event.involves] using Nat.succ_le_of_lt loser
    · simpa [Event.isReset, Event.involves, wins, loses] using counted

theorem Limited.updated (found : store.users.find userId = some user)
    (permission : permitted store (.updateUser userId update)) :
    Limited (store.updated userId update) := by
  cases update with
  | resetDailyBattles => exact limited.reset found permission
  | activity => exact limited.activity found permission
  | _ => exact limited.plain trivial

theorem Limited.after {cmd : Cmd} {reply : cmd.Reply}
    (permission : permitted store cmd) (expected : (tracking permitted).expects store cmd reply) :
    Limited ((tracking permitted).after store cmd reply) := by
  cases cmd with
  | updateUser =>
    cases reply with
    | error => exact limited
    | ok =>
      rcases expected with ⟨_, found⟩
      exact limited.updated found permission
  | respond response =>
    cases response with
    | battle outcome =>
      cases outcome with
      | error => exact limited
      | ok => exact limited.succeeded permission.1 permission.2
    | draw => exact limited
    | decay => exact limited
  | _ => exact limited

end Permitted

structure Checked (store : Store) (playerId : UserId) (reached : Store)
    (outcome : Except EloError BattleCheck) : Prop where
  limited : Limited reached
  rooms : ∀ userId, HasRoom store userId → HasRoom reached userId
  own : ∀ check, outcome = .ok check → check.allowed = true → HasRoom reached playerId

section Calls

variable {store : Store} {playerId opponentId userId : UserId}

theorem checkOpponent_checked (player : User) (now : ℤ) {before : Store} (limited : Limited store)
    (rooms : ∀ userId, HasRoom before userId → HasRoom store userId)
    (room : HasRoom store playerId) :
    (checkOpponent playerId opponentId player now).run.Obeys (tracking permitted)
      (Checked before playerId) store := by
  refine Program.obeys_of_uses ?_ ?_ (checkOpponent_readOnly player now)
    fun outcome => ⟨limited, rooms, fun _ _ _ => room⟩
  · intro cmd readOnly
    cases cmd <;> trivial
  · intro cmd readOnly _
    cases cmd <;> first | rfl | exact readOnly.elim

theorem canBattle_checked (limited : Limited store) :
    (canBattle playerId opponentId).run.Obeys (tracking permitted) (Checked store playerId)
      store := by
  have unchanged (outcome : Except EloError BattleCheck)
      (denied : ∀ check, outcome = .ok check → check.allowed = false) :
      Checked store playerId store outcome := by
    refine ⟨limited, fun _ room => room, ?_⟩
    intro check isOk allowed
    rw [denied check isOk] at allowed
    cases allowed
  refine obeys_findUser trivial (unchanged _ nofun) ?_
  cases found : store.users.find playerId with
  | none =>
    refine unchanged _ ?_
    rintro _ ⟨⟩
    rfl
  | some player =>
    refine obeys_getTime trivial ?_
    intro now
    by_cases isOver : player.dailyBattleReset < now
    · rw [if_pos isOver]
      have permission : permitted store (.updateUser playerId (.resetDailyBattles now)) :=
        ⟨player.dailyBattleReset, by rw [Store.dayEnd, found]; rfl, isOver⟩
      refine obeys_updateUser permission (unchanged _ nofun) ?_
      intro _ _
      have own : (store.updated playerId (.resetDailyBattles now)).battles playerId = 0 :=
        battles_updated_self found
      have room : HasRoom (store.updated playerId (.resetDailyBattles now)) playerId := by
        rw [HasRoom, own]
        decide
      refine checkOpponent_checked player now (limited.reset found permission) ?_ room
      intro userId before
      by_cases same : userId = playerId
      · exact same ▸ room
      · rw [HasRoom, battles_updated_of_ne same]
        exact before
    · rw [if_neg isOver]
      by_cases atLimit : maxDailyBattles ≤ player.battlesToday
      · rw [if_pos atLimit]
        refine unchanged _ ?_
        rintro _ ⟨⟩
        rfl
      · rw [if_neg atLimit]
        refine checkOpponent_checked player now limited (fun _ room => room) ?_
        rw [HasRoom, battles_of_found found]
        exact not_le.mp atLimit

def Counts (winnerId loserId : UserId) (reached : Store) :
    Except EloError EloUpdateResult → Prop
  | .ok result => result.winnerId = winnerId ∧ result.loserId = loserId ∧
      IsCounted reached winnerId ∧ IsCounted reached loserId
  | .error _ => True

variable {other winnerId loserId : UserId}

variable {update : UserUpdate} {now : ℤ}

theorem isCounted_updated (plain : update.Plain) :
    IsCounted (store.updated other update) userId ↔ IsCounted store userId := by
  have noReset : ∀ now, update ≠ .resetDailyBattles now := by
    rintro _ rfl
    exact plain
  rw [IsCounted, IsCounted, battles_updated_of_plain plain, (successes_updated noReset).1]

theorem hasRoom_updated (plain : update.Plain) :
    HasRoom (store.updated other update) userId ↔ HasRoom store userId := by
  rw [HasRoom, HasRoom, battles_updated_of_plain plain]

theorem isCounted_activity (limited : Limited store) {user : User}
    (found : store.users.find userId = some user) :
    IsCounted (store.updated userId (.activity now)) userId := by
  have counted := limited.counted userId
  rw [battles_of_found found] at counted
  rw [IsCounted, battles_updated_self found]
  exact Nat.lt_succ_of_le counted

theorem isCounted_activity_of_ne (differs : userId ≠ other) :
    IsCounted (store.updated other (.activity now)) userId ↔ IsCounted store userId := by
  rw [IsCounted, IsCounted, battles_updated_of_ne differs]
  rfl

structure Completed (store : Store) (playerId : UserId) (reached : Store) : Prop where
  limited : Limited reached
  own : IsCounted reached playerId
  rooms : ∀ userId, userId ≠ playerId → HasRoom store userId → HasRoom reached userId
  counted : ∀ userId, userId ≠ playerId → IsCounted store userId → IsCounted reached userId

theorem recordBattleCompletion_completed (limited : Limited store)
    (room : HasRoom store playerId) :
    (recordBattleCompletion playerId).run.Obeys (tracking permitted)
      (fun reached outcome => ∀ value, outcome = .ok value → Completed store playerId reached)
      store := by
  refine obeys_bind (obeys_getTime trivial fun now => ?_)
  refine obeys_updateUser_last room nofun ?_
  intro _ found
  have active : Limited (store.updated playerId (.activity now)) := limited.activity found room
  have own : IsCounted (store.updated playerId (.activity now)) playerId :=
    isCounted_activity limited found
  refine obeys_getTime trivial fun last => obeys_updateUser_last trivial nofun ?_
  intro _ _ _ _
  have plain : UserUpdate.Plain (.lastBattle last) := trivial
  refine ⟨active.plain plain, (isCounted_updated plain).mpr own, ?_, ?_⟩
  · intro userId differs before
    rw [hasRoom_updated plain, HasRoom, battles_updated_of_ne differs]
    exact before
  · intro _ differs before
    rw [isCounted_updated plain, isCounted_activity_of_ne differs]
    exact before

theorem recordBattle_counts (distinct : winnerId ≠ loserId)
    (limited : Limited store) (winnerRoom : HasRoom store winnerId)
    (loserRoom : HasRoom store loserId) (winner loser : RatingUpdate) :
    (recordBattle ⟨winnerId, loserId⟩ winner loser).run.Obeys (tracking permitted)
      (fun reached outcome => ∀ value, outcome = .ok value →
        IsCounted reached winnerId ∧ IsCounted reached loserId) store := by
  refine obeys_updateUser trivial nofun fun _ _ => obeys_updateUser trivial nofun fun _ _ => ?_
  have won : UserUpdate.Plain (.win winner) := trivial
  have lost : UserUpdate.Plain (.loss loser) := trivial
  have rated : Limited ((store.updated winnerId (.win winner)).updated loserId (.loss loser)) :=
    (limited.plain won).plain lost
  have rooms (userId : UserId) (room : HasRoom store userId) : HasRoom ((store.updated winnerId
      (.win winner)).updated loserId (.loss loser)) userId := by
    rw [hasRoom_updated lost, hasRoom_updated won]
    exact room
  refine obeys_bind
    ((recordBattleCompletion_completed rated (rooms winnerId winnerRoom)).mono ?_)
  intro _ outcome completed
  cases outcome with
  | error => exact nofun
  | ok =>
    have first := completed () rfl
    have room := first.rooms loserId (Ne.symm distinct) (rooms loserId loserRoom)
    refine (recordBattleCompletion_completed first.limited room).mono ?_
    intro _ _ completed value isOk
    have second := completed value isOk
    exact ⟨second.counted winnerId distinct first.own, second.own⟩

theorem rateBattle_counts (powTen : ℚ → ℚ) (distinct : winnerId ≠ loserId) (limited : Limited store)
    (winnerRoom : HasRoom store winnerId) (loserRoom : HasRoom store loserId) :
    (rateBattle powTen ⟨winnerId, loserId⟩).run.Obeys (tracking permitted)
      (Counts winnerId loserId) store := by
  refine obeys_findUser trivial trivial (obeys_findUser trivial trivial ?_)
  cases store.users.find winnerId with
  | none => trivial
  | some =>
    cases store.users.find loserId with
    | none => trivial
    | some =>
      refine obeys_bind
        ((recordBattle_counts distinct limited winnerRoom loserRoom _ _).mono ?_)
      intro _ outcome counted
      cases outcome with
      | error => trivial
      | ok => exact ⟨rfl, rfl, counted () rfl⟩

theorem updateEloAfterBattle_counts (powTen : ℚ → ℚ)
    (distinct : winnerId ≠ loserId) (limited : Limited store) :
    (updateEloAfterBattle powTen ⟨winnerId, loserId⟩).run.Obeys (tracking permitted)
      (Counts winnerId loserId) store := by
  refine obeys_bind ((canBattle_checked limited).mono ?_)
  intro _ outcome first
  cases outcome with
  | error => trivial
  | ok winnerCheck =>
    refine obeys_bind ((canBattle_checked first.limited).mono ?_)
    intro _ outcome second
    cases outcome with
    | error => trivial
    | ok loserCheck =>
      simp only [Throwing.Continues]
      split
      · trivial
      · rename_i allowed
        rw [not_or, Bool.not_eq_false, Bool.not_eq_false] at allowed
        refine rateBattle_counts powTen distinct second.limited ?_ ?_
        · exact second.rooms winnerId (first.own winnerCheck rfl allowed.1)
        · exact second.own loserCheck rfl allowed.2

theorem body_permitted (powTen : ℚ → ℚ) {battleResult : BattleResult}
    (distinct : battleResult.winnerId ≠ battleResult.loserId) (limited : Limited store) :
    (body powTen (.battle battleResult)).Obeys (tracking permitted) (fun _ _ => True) store := by
  refine Program.obeys_bind.mpr ((updateEloAfterBattle_counts powTen distinct limited).mono ?_)
  intro _ outcome counts
  cases outcome with
  | error => exact ⟨trivial, fun _ _ => trivial⟩
  | ok =>
    rcases counts with ⟨winnerId, loserId, winner, loser⟩
    refine ⟨⟨?_, ?_⟩, fun _ _ => trivial⟩
    · exact winnerId ▸ winner
    · exact loserId ▸ loser

end Calls

/-- Calls do not overlap, and all of them are for battles between two users. -/
def BattlesInTurn (state : ServerState) (action : ServerAction) : Prop :=
  state.OneAtATime action ∧ ∀ id call, action = .start id call →
    ∃ battleResult, call = .battle battleResult ∧ battleResult.winnerId ≠ battleResult.loserId

section Runs

variable {powTen : ℚ → ℚ} {users : Keys.Table UserId User} {state : ServerState}

/--
Battle calls between distinct users run one at a time, from a table in which no counter is above
20. In every state no counter is above 20, no part of the log without a reset of a user has more
than 20 successes of the user, and consecutive resets of a user are more than a day apart.
-/
theorem daily_limit (within : ∀ userId user, users.find userId = some user →
      user.battlesToday ≤ 20)
    (reached : (server powTen).Reaches BattlesInTurn (freshServer users) state) :
    (∀ userId user, state.store.users.find userId = some user → user.battlesToday ≤ 20) ∧
      ∀ userId, WithinLimit userId state.store.log ∧ DaysApart userId state.store.log := by
  have start : Limited (freshServer users).store := by
    refine ⟨fun _ => Nat.zero_le _, ?_, fun _ _ => nofun, ?_, ?_⟩
    · intro userId
      cases found : users.find userId with
      | none => simp [Store.battles, freshServer, found]
      | some user =>
        rw [battles_of_found found]
        exact within userId user found
    · intro userId later part earlier split _
      simp only [freshServer, List.nil_eq, List.append_eq_nil_iff] at split
      simp [split.1.2]
    · intro userId _ _ _ _ _ split
      simp [freshServer] at split
  have limited : Limited state.store := by
    have bodies (state : ServerState) (id : ℕ) (call : Call)
        (met : BattlesInTurn state (.start id call)) (limited : Limited state.store) :
        (body powTen call).Obeys (tracking permitted) (fun _ _ => True) state.store := by
      rcases met.2 id call rfl with ⟨_, rfl, distinct⟩
      exact body_permitted powTen distinct limited
    refine @Server.Reaches.invariant_of_turns _ _ _ _ _ _ _ _ _ _ _ (fun store => store) Limited
      reached (fun _ => rfl) (fun _ _ met => met.1) bodies ?_ (fun event => event.elim)
      handle_tracking (fun _ _ _ limited => limited.after) start
    intro _ _ _ accepted
    cases accepted
    rfl
  refine ⟨?_, fun userId => ⟨limited.withinLimit userId, limited.daysApart userId⟩⟩
  intro userId _ found
  rw [← battles_of_found found]
  exact limited.limited userId

def startsInTurn (state : ServerState) (action : ServerAction) : Bool :=
  match action with
  | .start _ call => Server.finished [0, 1] state && call = .battle ⟨"ann", "bob"⟩
  | _ => true

theorem startsInTurn_sound {action : ServerAction} (only : state.Only [0, 1])
    (checked : startsInTurn state action = true) : BattlesInTurn state action := by
  constructor
  · rintro id call rfl
    exact Server.finished_done only (Bool.and_eq_true_iff.mp checked).1
  · rintro _ _ rfl
    exact ⟨_, of_decide_eq_true (Bool.and_eq_true_iff.mp checked).2, by decide⟩

theorem battles_of_two_days_are_counted :
    ∃ state, (server fun _ => 1).Reaches BattlesInTurn (freshServer sampleUsers) state ∧
      state.store.log = [.succeeded "ann" "bob", .written "bob" 1168, .written "ann" 1232,
        .reset "bob" 90000000, .reset "ann" 90000000, .succeeded "ann" "bob", .written "bob" 1184,
        .written "ann" 1216, .reset "bob" 1, .reset "ann" 1] ∧
      WithinLimit "ann" state.store.log ∧ DaysApart "ann" state.store.log := by
  let play (id : ℕ) (now : ℤ) : List ServerAction :=
    .start id (.battle ⟨"ann", "bob"⟩) :: List.replicate 23 (.advance id (answerAt now))
  apply Server.exists_reaches_and [0, 1] startsInTurn (play 0 1 ++ play 1 90000000)
  · intro _ _ only checked
    exact startsInTurn_sound only checked
  · intro _ _
    rfl
  · decide +kernel
  · intro _ reached
    refine (daily_limit ?_ reached).2 "ann"
    intro _ _ found
    rcases Keys.Table.find_ofKeys.mp found with ⟨_, rfl⟩
    exact Nat.zero_le _

end Runs

end CodeClash.Rating
