import CodeClash.Enhanced.Creation
import CodeClash.Pairing.Nearest

/-!
# Who is matched

Records expire, members of the sorted set do not. A search skips users without a record, but an
opponent without a record reads as one with the rating zero. As long as the members have their
records and no rating is negative, a search returns two different users with records, within the
window of the first one.
-/

namespace CodeClash.Enhanced.Matchmaking

open Async Keys Function Throwing
open Pairing (IsBest)

inductive Operation where
  | addToQueue (userId : UserId) (socketId : String) (elo : ℤ)
  | removeFromQueue (userId : UserId)

def Operation.program (options : MatchmakingOptions) : Operation → Prog Unit
  | .addToQueue userId socketId elo => Matchmaking.addToQueue options userId socketId elo
  | .removeFromQueue userId => Matchmaking.removeFromQueue userId

def Operation.Rated : Operation → Prop
  | .addToQueue _ _ elo => 0 ≤ elo
  | .removeFromQueue _ => True

def working (clock : ℕ → ℤ) (n : ℕ) : Choice := ⟨clock n, false, ""⟩

structure Step where
  operation : Operation
  clock : ℕ → ℤ

def Store.after (options : MatchmakingOptions) (store : Store) (step : Step) : Store :=
  (runAlone (step.operation.program options) (working step.clock) store).2

def play (options : MatchmakingOptions) (store : Store) (history : List Step) : Store :=
  history.foldl (Store.after options) store

/-- Every member of the sorted set has its record at each moment of the clock. -/
def Store.Live (store : Store) (clock : ℕ → ℤ) : Prop :=
  ∀ userId n, (store.queue.find userId).isSome → (store.hash (clock n) userId).isSome

/-- What a pair has to be that a search returns, by the stores before and after it. -/
structure Waiting (options : MatchmakingOptions) (before after : Store) (now : ℤ)
    (found : Match) : Prop where
  distinct : found.player1 ≠ found.player2
  first : (before.hash now found.player1).isSome
  second : (before.hash now found.player2).isSome
  close : ∃ elo1 elo2, (before.userData now found.player1).elo = some elo1 ∧
    (before.userData now found.player2).elo = some elo2 ∧
    |elo2 - elo1| ≤ (before.userData now found.player1).window options ∧
    ∀ other elo, (after.queue.find other).isSome → (after.userData now other).elo = some elo →
      ¬|elo - elo1| < |elo2 - elo1|

/-- The records of members have their scores for ratings, and no score is negative. -/
def Store.Scored (store : Store) : Prop :=
  ∀ userId score, store.queue.find userId = some score →
    0 ≤ score ∧ ∀ hash, store.hashes userId = some hash → hash.data.elo = some score

section Queue

variable {options : MatchmakingOptions} {store : Store} {clock : ℕ → ℤ} {userId : UserId}
  {socketId : String} {elo : ℤ}

theorem data_addToQueue {hash : Hash}
    (found : (runAlone (addToQueue options userId socketId elo) (working clock) store).2.hashes
      userId = some hash) :
    hash.data = ⟨some userId, some socketId, some elo, some (clock 0),
      some (parsePrinted options.initialEloWindow), some 0⟩ := by
  have expires : (runAlone (addToQueue options userId socketId elo) (working clock) store).2.hashes
      userId = _ := update_self ..
  rw [expires, Option.map_eq_some_iff] at found
  rcases found with ⟨_, live, rfl⟩
  cases (update_self ..).symm.trans (Option.filter_eq_some_iff.mp live).1
  rfl

theorem hashes_addToQueue_of_ne {other : UserId} (differs : other ≠ userId) :
    (runAlone (addToQueue options userId socketId elo) (working clock) store).2.hashes other =
      store.hashes other :=
  (update_of_ne differs ..).trans (update_of_ne differs ..)

theorem Store.Scored.after {step : Step} (scored : store.Scored) (rated : step.operation.Rated) :
    (store.after options step).Scored := by
  rcases step with ⟨operation, _⟩
  intro other score queued
  cases operation with
  | addToQueue userId _ elo =>
    have inserted := (Table.find_insert userId other elo).symm.trans queued
    split at inserted
    · rename_i same
      cases same
      cases inserted
      exact ⟨rated, fun hash found => by rw [data_addToQueue found]⟩
    · rename_i differs
      rcases scored other score inserted with ⟨nonneg, recorded⟩
      exact ⟨nonneg, fun hash found =>
        recorded hash ((hashes_addToQueue_of_ne differs).symm.trans found)⟩
  | removeFromQueue userId =>
    have erased := (Table.find_erase userId other).symm.trans queued
    split at erased
    · cases erased
    · rename_i differs
      rcases scored other score erased with ⟨nonneg, recorded⟩
      exact ⟨nonneg, fun hash found =>
        recorded hash ((update_of_ne differs ..).symm.trans found)⟩

theorem scored_play {history : List Step} (scored : store.Scored)
    (rated : ∀ step ∈ history, step.operation.Rated) : (play options store history).Scored := by
  induction history generalizing store with
  | nil => exact scored
  | cons step _ ih =>
    exact ih (scored.after (rated step List.mem_cons_self))
      fun later member => rated later (List.mem_cons_of_mem step member)

end Queue

def Cmd.Searches (queue : Ranked UserId) : Cmd → Prop
  | .now | .zRange _ | .zRangeByScore _ _ | .hGetAll _ | .hGetElo _ | .zRem _ | .emitTimeout _ =>
    True
  | .delUser userId => queue.find userId = none
  | _ => False

/-- The records of those who are still in the queue do not change. -/
def searching (records : UserId → UserData) : Protocol signature (Ranked UserId) where
  allows queue cmd := cmd.Searches queue
  expects queue cmd reply :=
    match cmd, reply with
    | .zRange reversed, reply => reply = .ok (if reversed then
        (queue.ascending.map Prod.fst).reverse else queue.ascending.map Prod.fst)
    | .zRangeByScore minElo maxElo, reply => reply = .ok (queue.rangeByScore minElo maxElo)
    | .hGetAll userId, reply => (queue.find userId).isSome → reply = .ok (records userId)
    | .hGetElo userId, reply => (queue.find userId).isSome → reply = .ok (records userId).elo
    | .zRem _, reply => reply = .ok ()
    | .delUser _, reply => reply = .ok ()
    | _, _ => True
  after queue cmd _ :=
    match cmd with
    | .zRem userId => queue.erase userId
    | _ => queue

def distance (records : UserId → UserData) (userElo : ℤ) (userId : UserId) : ℤ :=
  |(records userId).elo.getD 0 - userElo|

/-- The opponent is one of the queue, within the window, and nobody else in it is closer. -/
structure Suits (records : UserId → UserData) (queue : Ranked UserId) (userId : UserId)
    (userElo window : ℤ) (opponent : UserId) : Prop where
  differs : opponent ≠ userId
  queued : (queue.find opponent).isSome
  close : distance records userElo opponent ≤ window
  nearest : ∀ other, other ≠ userId → (queue.find other).isSome →
    distance records userElo opponent ≤ distance records userElo other

structure Underway (records : UserId → UserData) (queuedUsers users : List UserId)
    (queue : Ranked UserId) : Prop where
  rated : ∀ userId score, queue.find userId = some score →
    0 ≤ score ∧ (records userId).elo = some score
  listed : ∀ userId, (queue.find userId).isSome → userId ∈ queuedUsers
  present : ∀ userId ∈ users, (queue.find userId).isSome
  nodup : users.Nodup

structure Pairs (options : MatchmakingOptions) (records : UserId → UserData)
    (queuedUsers : List UserId) (after : Ranked UserId) (found : Match) : Prop where
  distinct : found.player1 ≠ found.player2
  first : found.player1 ∈ queuedUsers
  second : found.player2 ∈ queuedUsers
  close : ∃ elo, (records found.player1).elo = some elo ∧
    distance records elo found.player2 ≤ (records found.player1).window options ∧
    ∀ other, (after.find other).isSome →
      distance records elo found.player2 ≤ distance records elo other

section Search

variable {options : MatchmakingOptions} {records : UserId → UserData} {queue : Ranked UserId}
  {queuedUsers users : List UserId} {userId : UserId} {userElo : ℤ}

variable {other opponent : UserId}

theorem find_erase_some {score : ℤ} (found : (queue.erase userId).find other = some score) :
    other ≠ userId ∧ queue.find other = some score := by
  rw [Table.find_erase] at found
  split at found
  · cases found
  · rename_i differs
    exact ⟨differs, found⟩

theorem isSome_erase (found : ((queue.erase userId).find other).isSome) :
    other ≠ userId ∧ (queue.find other).isSome := by
  rcases Option.isSome_iff_exists.mp found with ⟨score, isScore⟩
  exact (find_erase_some isScore).imp_right fun before =>
    Option.isSome_iff_exists.mpr ⟨score, before⟩

theorem hGetAll_returns (queued : (queue.find userId).isSome) :
    Returns (searching records) queue (fun userData => userData = records userId)
      (hGetAll userId) := by
  refine ⟨trivial, fun reply isReply => ?_⟩
  cases isReply queued
  exact returns_pure rfl

theorem zRange_returns :
    Returns (searching records) queue
      (fun members => members = (queue.ascending.map Prod.fst).reverse) (zRange true) := by
  refine ⟨trivial, fun reply isReply => ?_⟩
  cases isReply
  exact returns_pure rfl

theorem zRangeByScore_returns (minElo maxElo : ℤ) :
    Returns (searching records) queue
      (fun members => members = queue.rangeByScore minElo maxElo)
      (zRangeByScore minElo maxElo) := by
  refine ⟨trivial, fun reply isReply => ?_⟩
  cases isReply
  exact returns_pure rfl

theorem getNow_returns : Returns (searching records) queue (fun _ => True) getNow :=
  ⟨trivial, fun _ _ => returns_pure trivial⟩

theorem readElo_returns (queued : (queue.find userId).isSome) :
    Returns (searching records) queue
      (fun elo => elo = (records userId).elo.getD 0) (readElo userId) := by
  refine ⟨trivial, fun reply isReply => ?_⟩
  cases isReply queued
  exact returns_pure rfl

theorem closest_returns {opponents seen : List UserId} {best : UserId}
    (queued : ∀ opponent ∈ opponents, (queue.find opponent).isSome)
    (isBest : IsBest (fun _ => True) (distance records userElo) seen (some best)) :
    Returns (searching records) queue
      (fun chosen =>
        IsBest (fun _ => True) (distance records userElo) (seen ++ opponents) (some chosen))
      (closest userElo opponents best (distance records userElo best)) := by
  induction opponents generalizing seen best with
  | nil => exact returns_pure (by rwa [List.append_nil])
  | cons opponent _ ih =>
    have later := fun other member => queued other (List.mem_cons_of_mem opponent member)
    have next : IsBest (fun _ => True) (distance records userElo) (seen ++ [opponent]) _ :=
      isBest.closer trivial
    rw [List.append_cons]
    refine returns_bind (readElo_returns (queued opponent List.mem_cons_self)) ?_
    rintro _ rfl
    change Returns _ _ _ (if distance records userElo opponent <
      distance records userElo best then _ else _)
    split_ifs at next ⊢ with closer
    · exact ih later next
    · exact ih later next

theorem distance_eq {elo : ℤ} (isElo : (records userId).elo = some elo) :
    distance records userElo userId = |elo - userElo| := by
  rw [distance, isElo, Option.getD_some]

theorem suits_of_isBest (underway : Underway records queuedUsers users queue) {window : ℤ}
    {candidates : List UserId}
    (isCandidate : ∀ other, other ∈ candidates ↔
      (∃ score, queue.find other = some score ∧ max 0 (userElo - window) ≤ score ∧
        score ≤ userElo + window) ∧ other ≠ userId ∧ other ∈ queuedUsers)
    {chosen : UserId}
    (isBest : IsBest (fun _ => True) (distance records userElo) candidates (some chosen)) :
    Suits records queue userId userElo window chosen := by
  rcases isBest with ⟨member, _, least⟩
  rcases (isCandidate chosen).mp member with ⟨⟨score, found, _, _⟩, differs, _⟩
  have close : distance records userElo chosen ≤ window := by
    rw [distance_eq (underway.rated chosen score found).2, abs_le]
    omega
  refine ⟨differs, Option.isSome_iff_exists.mpr ⟨score, found⟩, close, ?_⟩
  intro other otherDiffers queued
  rcases Option.isSome_iff_exists.mp queued with ⟨otherScore, otherFound⟩
  rcases underway.rated other otherScore otherFound with ⟨_, otherElo⟩
  by_cases within : max 0 (userElo - window) ≤ otherScore ∧ otherScore ≤ userElo + window
  · exact least other ((isCandidate other).mpr
      ⟨⟨otherScore, otherFound, within⟩, otherDiffers, underway.listed other queued⟩) trivial
  · have far : window < |otherScore - userElo| := by
      rw [lt_abs]
      omega
    rw [distance_eq otherElo]
    exact close.trans far.le

theorem findOpponent_returns (underway : Underway records queuedUsers users queue) (window : ℤ) :
    Returns (searching records) queue
      (fun opponent => ∀ chosen, opponent = some chosen →
        Suits records queue userId userElo window chosen)
      (findOpponent queuedUsers userId userElo window) := by
  refine returns_bind (zRangeByScore_returns _ _) ?_
  rintro _ rfl
  have isCandidate : ∀ other, other ∈ (queue.rangeByScore (max 0 (userElo - window))
      (userElo + window)).filter (fun id => id ≠ userId && id ∈ queuedUsers) ↔
      (∃ score, queue.find other = some score ∧ max 0 (userElo - window) ≤ score ∧
        score ≤ userElo + window) ∧ other ≠ userId ∧ other ∈ queuedUsers := by
    intro other
    rw [List.mem_filter, Ranked.mem_rangeByScore, Bool.and_eq_true, decide_eq_true_eq,
      decide_eq_true_eq]
  generalize (queue.rangeByScore (max 0 (userElo - window)) (userElo + window)).filter
    (fun id => id ≠ userId && id ∈ queuedUsers) = candidates at isCandidate ⊢
  cases candidates with
  | nil => exact returns_pure (by rintro _ ⟨⟩)
  | cons first others =>
    have queued : ∀ other ∈ first :: others, (queue.find other).isSome := by
      intro other member
      rcases (isCandidate other).mp member with ⟨⟨score, found, _⟩, _⟩
      exact Option.isSome_iff_exists.mpr ⟨score, found⟩
    have isBest : IsBest (fun _ => True) (distance records userElo) [first] (some first) :=
      ⟨List.mem_singleton_self first, trivial, by simp⟩
    refine returns_bind (readElo_returns (queued first List.mem_cons_self)) ?_
    rintro _ rfl
    refine returns_bind (closest_returns queued isBest) fun chosen best => ?_
    refine returns_pure ?_
    rintro _ ⟨⟩
    refine suits_of_isBest underway isCandidate ⟨?_, trivial, ?_⟩
    · exact (List.mem_append.mp best.1).elim
        (fun isFirst => List.mem_singleton.mp isFirst ▸ List.mem_cons_self) id
    · exact fun other member => best.2.2 other (List.mem_append_right _ member)

theorem removeFromQueue_ends :
    (removeFromQueue userId).run.Obeys (searching records)
      (Ends (.ok ()) (queue.erase userId)) queue := by
  refine ⟨trivial, fun removed isRemoved => ?_⟩
  cases isRemoved
  refine ⟨(Table.find_erase userId userId).trans (if_pos rfl), fun deleted isDeleted => ?_⟩
  cases isDeleted
  exact ⟨rfl, rfl⟩

theorem removeBoth_ends :
    (Throwing.all [removeFromQueue userId, removeFromQueue opponent]).run.Obeys (searching records)
      (Ends (.ok [(), ()]) ((queue.erase userId).erase opponent)) queue := by
  refine Program.obeys_bind.mpr (removeFromQueue_ends.mono ?_)
  rintro _ _ ⟨rfl, rfl⟩
  refine Program.obeys_bind.mpr (Program.obeys_bind.mpr (removeFromQueue_ends.mono ?_))
  rintro _ _ ⟨rfl, rfl⟩
  exact ⟨rfl, rfl⟩

def Returned (options : MatchmakingOptions) (records : UserId → UserData)
    (queuedUsers : List UserId) (after : Ranked UserId)
    (outcome : Except MatchError (Option Match)) : Prop :=
  ∀ found, outcome = .ok (some found) → Pairs options records queuedUsers after found

theorem Suits.pairs (underway : Underway records queuedUsers users queue)
    (queued : (queue.find userId).isSome) (isElo : (records userId).elo = some userElo)
    (suits : Suits records queue userId userElo ((records userId).window options) opponent) :
    Pairs options records queuedUsers ((queue.erase userId).erase opponent) ⟨userId, opponent⟩ := by
  refine ⟨suits.differs.symm, underway.listed userId queued, underway.listed opponent suits.queued,
    userElo, isElo, suits.close, ?_⟩
  intro other still
  rcases isSome_erase (isSome_erase still).2 with ⟨differs, otherQueued⟩
  exact suits.nearest other differs otherQueued

theorem Underway.tail (underway : Underway records queuedUsers (userId :: users) queue) :
    Underway records queuedUsers users queue where
  rated := underway.rated
  listed := underway.listed
  present other member := underway.present other (List.mem_cons_of_mem userId member)
  nodup := underway.nodup.of_cons

theorem Underway.erase (underway : Underway records queuedUsers (userId :: users) queue) :
    Underway records queuedUsers users (queue.erase userId) where
  rated other score found := underway.rated other score (find_erase_some found).2
  listed other found := underway.listed other (isSome_erase found).2
  present other member := by
    have differs : other ≠ userId := by
      rintro rfl
      exact underway.nodup.notMem member
    rw [Table.find_erase, if_neg differs]
    exact underway.present other (List.mem_cons_of_mem userId member)
  nodup := underway.nodup.of_cons

theorem matchUsers_pairs (underway : Underway records queuedUsers users queue) :
    (matchUsers options queuedUsers users).run.Obeys (searching records)
      (Returned options records queuedUsers) queue := by
  induction users generalizing queue with
  | nil => rintro _ ⟨⟩
  | cons userId _ ih =>
    have queued := underway.present userId List.mem_cons_self
    rcases Option.isSome_iff_exists.mp queued with ⟨userElo, found⟩
    have isElo := (underway.rated userId userElo found).2
    refine (hGetAll_returns queued).bind ?_ (by rintro _ _ ⟨⟩)
    rintro _ rfl
    split
    · exact ih underway.tail
    · refine getNow_returns.bind (fun now _ => ?_) (by rintro _ _ ⟨⟩)
      split
      · exact obeys_bind_ok removeFromQueue_ends
          ⟨trivial, fun _ _ => ih underway.erase⟩
      · rw [isElo]
        refine (findOpponent_returns underway _).bind ?_ (by rintro _ _ ⟨⟩)
        intro opponent suits
        cases opponent with
        | none => exact ih underway.tail
        | some bestMatch =>
          exact obeys_bind_ok removeBoth_ends
            (by rintro _ ⟨⟩; exact (suits bestMatch rfl).pairs underway queued isElo)

theorem findMatch_pairs
    (rated : ∀ userId score, queue.find userId = some score →
      0 ≤ score ∧ (records userId).elo = some score) :
    (findMatch options).run.Obeys (searching records)
      (Returned options records (queue.ascending.map Prod.fst).reverse) queue := by
  refine zRange_returns.bind ?_ (by rintro _ _ ⟨⟩)
  rintro _ rfl
  split
  · rintro _ ⟨⟩
  · have isMember : ∀ userId, userId ∈ (queue.ascending.map Prod.fst).reverse ↔
        (queue.find userId).isSome := fun userId =>
      List.mem_reverse.trans Ranked.mem_keys_ascending
    exact matchUsers_pairs ⟨rated, fun userId => (isMember userId).mpr,
      fun userId => (isMember userId).mp, List.nodup_reverse.mpr (Ranked.ascending_nodup queue)⟩

end Search

/-- The store has this queue, and at all times these records of its members. -/
structure Shows (records : UserId → UserData) (clock : ℕ → ℤ) (store : Store)
    (queue : Ranked UserId) : Prop where
  same : store.queue = queue
  kept : ∀ userId n, (queue.find userId).isSome → store.userData (clock n) userId = records userId

section Alone

variable {options : MatchmakingOptions} {records : UserId → UserData} {clock : ℕ → ℤ}
  {store : Store} {queue : Ranked UserId} {userId : UserId}

theorem userData_setHash {other : UserId} (differs : other ≠ userId) (hash : Option Hash)
    (now : ℤ) : (store.setHash userId hash).userData now other = store.userData now other := by
  have same : (store.setHash userId hash).hashes other = store.hashes other :=
    update_of_ne differs ..
  simp only [Store.userData, Store.hash, same]

theorem Shows.handle (shown : Shows records clock store queue) {cmd : Cmd}
    (allowed : cmd.Searches queue) (n : ℕ) :
    (searching records).expects queue cmd (Matchmaking.handle cmd (working clock n) store).1 ∧
      Shows records clock (Matchmaking.handle cmd (working clock n) store).2
        ((searching records).after queue cmd
          (Matchmaking.handle cmd (working clock n) store).1) := by
  rcases shown with ⟨rfl, kept⟩
  cases cmd with
  | zRem =>
    exact ⟨rfl, rfl, fun other n found => kept other n (isSome_erase found).2⟩
  | delUser userId =>
    refine ⟨rfl, rfl, fun other n found => ?_⟩
    have differs : other ≠ userId := by
      rintro rfl
      cases (congrArg Option.isSome allowed).symm.trans found
    exact (userData_setHash differs none (clock n)).trans (kept other n found)
  | hGetAll userId => exact ⟨fun found => congrArg Except.ok (kept userId n found), rfl, kept⟩
  | hGetElo userId =>
    exact ⟨fun found => congrArg (fun data : UserData => Except.ok data.elo)
      (kept userId n found), rfl, kept⟩
  | zRange => exact ⟨rfl, rfl, kept⟩
  | zRangeByScore => exact ⟨rfl, rfl, kept⟩
  | now => exact ⟨trivial, rfl, kept⟩
  | emitTimeout => exact ⟨trivial, rfl, kept⟩
  | _ => exact allowed.elim

theorem userData_of_live {now : ℤ} (live : (store.hash now userId).isSome) :
    ∃ hash, store.hashes userId = some hash ∧ store.userData now userId = hash.data := by
  rcases Option.isSome_iff_exists.mp live with ⟨hash, found⟩
  refine ⟨hash, (Option.filter_eq_some_iff.mp found).1, ?_⟩
  rw [Store.userData, found]
  rfl

theorem Store.Live.recorded (live : store.Live clock) (n : ℕ)
    (queued : (store.queue.find userId).isSome) :
    store.userData (clock n) userId = store.userData (clock 0) userId := by
  rcases userData_of_live (live userId n queued) with ⟨_, isHash, isData⟩
  rcases userData_of_live (live userId 0 queued) with ⟨_, isFirst, firstData⟩
  rw [isHash, Option.some.injEq] at isFirst
  rw [isData, firstData, isFirst]

theorem Store.Live.rated (live : store.Live clock) (scored : store.Scored) {score : ℤ}
    (queued : store.queue.find userId = some score) :
    0 ≤ score ∧ (store.userData (clock 0) userId).elo = some score := by
  rcases scored userId score queued with ⟨nonneg, isElo⟩
  rcases userData_of_live (live userId 0 (Option.isSome_iff_exists.mpr ⟨score, queued⟩)) with
    ⟨hash, isHash, isData⟩
  exact ⟨nonneg, isData ▸ isElo hash isHash⟩

theorem Store.Live.searched (live : store.Live clock) (scored : store.Scored) :
    ∃ reached,
      Shows (store.userData (clock 0)) clock
        (runAlone (findMatch options) (working clock) store).2 reached ∧
      Returned options (store.userData (clock 0)) (store.queue.ascending.map Prod.fst).reverse
        reached (runAlone (findMatch options) (working clock) store).1 := by
  have shown : Shows (store.userData (clock 0)) clock store store.queue :=
    ⟨rfl, fun _ n queued => live.recorded n queued⟩
  rcases (findMatch_pairs fun _ _ queued => live.rated scored queued).run
    (fun _ _ _ shown => shown) (fun n _ _ _ shown allowed => Shows.handle shown allowed n)
    shown with ⟨_, reached, still, returned⟩
  exact ⟨reached, still, returned⟩

end Alone

/-- As long as no member of the sorted set has lost its record and nobody has joined with a negative
rating, a search returns players who wait and are nearest to each other. -/
theorem matched_players_wait (options : MatchmakingOptions) {initial : Store}
    (unqueued : ∀ userId, initial.queue.find userId = none) {history : List Step}
    (rated : ∀ step ∈ history, step.operation.Rated) {clock : ℕ → ℤ}
    (live : (play options initial history).Live clock) {found : Match} {after : Store}
    (matched : runAlone (findMatch options) (working clock) (play options initial history) =
      (.ok (some found), after)) (n : ℕ) :
    Waiting options (play options initial history) after (clock n) found := by
  have scored : (play options initial history).Scored := by
    refine scored_play (fun userId score queued => ?_) rated
    cases (unqueued userId).symm.trans queued
  have searched := @Store.Live.searched options _ _ live scored
  rw [matched] at searched
  rcases searched with ⟨_, ⟨rfl, kept⟩, returned⟩
  rcases returned found rfl with ⟨distinct, first, second, elo1, isElo1, close, nearest⟩
  rw [List.mem_reverse, Ranked.mem_keys_ascending] at first second
  rcases Option.isSome_iff_exists.mp second with ⟨elo2, queued2⟩
  have isElo2 := (live.rated scored queued2).2
  rw [distance_eq isElo2] at close nearest
  refine ⟨distinct, live _ n first, live _ n second, elo1, elo2, ?_, ?_, ?_, ?_⟩
  · rw [live.recorded n first, isElo1]
  · rw [live.recorded n second, isElo2]
  · rw [live.recorded n first]
    exact close
  · intro other _ queued isElo
    rw [kept other n queued] at isElo
    rw [not_lt, ← @distance_eq _ _ elo1 _ isElo]
    exact nearest other queued

def emptyStore : Store where
  queue := Table.empty
  hashes _ := none
  states _ := none
  users _ := none
  puzzles := []
  battles := []

def bothJoin : List Step :=
  [⟨.addToQueue "bob" "socket" 1200, fun _ => 0⟩,
    ⟨.addToQueue "ann" "socket" 1250, fun _ => 299000⟩]

theorem joined_players_wait :
    ∃ after, runAlone (findMatch DEFAULT_OPTIONS) (working fun _ => 299500)
        (play DEFAULT_OPTIONS emptyStore bothJoin) = (.ok (some ⟨"ann", "bob"⟩), after) ∧
      Waiting DEFAULT_OPTIONS (play DEFAULT_OPTIONS emptyStore bothJoin) after 299500
        ⟨"ann", "bob"⟩ := by
  have matched : runAlone (findMatch DEFAULT_OPTIONS) (working fun _ => 299500)
      (play DEFAULT_OPTIONS emptyStore bothJoin) = (.ok (some ⟨"ann", "bob"⟩), _) :=
    Prod.ext (by decide +kernel) rfl
  have live : ∀ userId ∈ (play DEFAULT_OPTIONS emptyStore bothJoin).queue.keys,
      ((play DEFAULT_OPTIONS emptyStore bothJoin).hash 299500 userId).isSome := by decide +kernel
  have rated : ∀ step ∈ bothJoin, step.operation.Rated :=
    List.forall_mem_cons.mpr ⟨(by decide : (0 : ℤ) ≤ 1200),
      List.forall_mem_singleton.mpr (by decide : (0 : ℤ) ≤ 1250)⟩
  exact ⟨_, matched, matched_players_wait DEFAULT_OPTIONS (fun _ => rfl) rated
    (fun userId _ queued => live userId ((Table.listed _ userId).mpr queued)) matched 0⟩

/-- A second later the record of the first user is gone, and the search still returns the two. -/
theorem expired_player_is_matched :
    ∃ after, runAlone (findMatch DEFAULT_OPTIONS) (working fun _ => 300500)
        (play DEFAULT_OPTIONS emptyStore bothJoin) = (.ok (some ⟨"ann", "bob"⟩), after) ∧
      ¬Waiting DEFAULT_OPTIONS (play DEFAULT_OPTIONS emptyStore bothJoin) after 300500
        ⟨"ann", "bob"⟩ := by
  refine ⟨_, Prod.ext (by decide +kernel) rfl, fun waiting => ?_⟩
  exact absurd waiting.second (by decide +kernel)

end CodeClash.Enhanced.Matchmaking
