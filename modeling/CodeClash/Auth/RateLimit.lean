import CodeClash.Async.System
import Mathlib.Data.Int.Notation
import Mathlib.Data.List.Nodup

/-!
# The limit of logins

`checkRateLimit` of `apps/api/src/services/authService.ts`: a counter in Redis is incremented, gets
an expiry from the call that created it, and its value decides. The store also keeps the calls that
have incremented a counter, in their order and for each period in which the counter existed, and the
place and the answer of each call.
-/

namespace CodeClash.Auth.Limiter

open Async Function

abbrev Key := String

structure RateLimit where
  allowed : Bool
  remaining : ℕ
  resetTime : ℤ
deriving DecidableEq, Repr

structure Counter where
  callers : List ℕ
  expiresAt : Option ℤ
deriving DecidableEq, Repr

structure Store where
  counters : Key → Option Counter
  past : Key → List (List ℕ)
  places : ℕ → Option (Key × ℕ)
  answers : ℕ → Option RateLimit

/-- `INCR` names the call that issues it, and `answer` is the end of a call. -/
inductive Cmd where
  | incr (key : Key) (caller : ℕ)
  | expire (key : Key) (seconds : ℤ)
  | ttl (key : Key)
  | now
  | answer (caller : ℕ) (result : RateLimit)

abbrev signature : Signature where
  Cmd := Cmd
  Reply
    | .incr .. => ℕ
    | .expire .. => Unit
    | .ttl _ => ℤ
    | .now => ℤ
    | .answer .. => Unit

def RATE_LIMIT_WINDOW : ℤ := 5 * 60

def RATE_LIMIT_MAX : ℕ := 5

def rateLimitKey (identifier ip : String) : Key := "rate_limit:auth:" ++ identifier ++ ":" ++ ip

def issue (cmd : Cmd) : Program signature (signature.Reply cmd) := @Program.perform signature cmd

def checkRateLimit (caller : ℕ) (identifier ip : String) : Program signature RateLimit := do
  let key := rateLimitKey identifier ip
  let current ← issue (.incr key caller)
  if current = 1 then issue (.expire key RATE_LIMIT_WINDOW) else pure ()
  let ttl ← issue (.ttl key)
  let now ← issue .now
  return ⟨current ≤ RATE_LIMIT_MAX, RATE_LIMIT_MAX - current, now + ttl * 1000⟩

def Counter.ttl (counter : Counter) (now : ℤ) : ℤ :=
  match counter.expiresAt with
  | some expiresAt => (expiresAt - now + 500) / 1000
  | none => -1

def Store.set (store : Store) (key : Key) (counter : Option Counter) : Store :=
  { store with counters := update store.counters key counter }

def Store.current (store : Store) (key : Key) : Counter := (store.counters key).getD ⟨[], none⟩

/-- The calls that incremented the counter of a key, for each period in which it existed. The last
list is empty while there is no counter. -/
def Store.periods (store : Store) (key : Key) : List (List ℕ) :=
  store.past key ++ [(store.current key).callers]

def handle : (cmd : Cmd) → ℤ → Store → signature.Reply cmd × Store
  | .incr key caller, _, store =>
    let counter := store.current key
    let place := counter.callers.length + 1
    (place, { store.set key (some { counter with callers := counter.callers ++ [caller] }) with
      places := update store.places caller (some (key, place)) })
  | .expire key seconds, now, store => ((), store.set key
      ((store.counters key).map ({ · with expiresAt := some (now + seconds * 1000) })))
  | .ttl key, now, store => (((store.counters key).map (·.ttl now)).getD (-2), store)
  | .now, now, store => (now, store)
  | .answer caller result, _, store =>
    ((), { store with answers := update store.answers caller (some result) })

def expire (key : Key) (store : Store) : Option Store :=
  match store.counters key with
  | some ⟨callers, some _⟩ =>
    some { store.set key none with past := update store.past key (store.past key ++ [callers]) }
  | _ => none

structure Call where
  identifier : String
  ip : String

def Call.key (call : Call) : Key := rateLimitKey call.identifier call.ip

def server : Server signature Store Call ℤ Key where
  handle := handle
  accept _ store := some store
  body id call := checkRateLimit id call.identifier call.ip >>= fun result =>
    issue (.answer id result)
  happen := expire

inductive Stage where
  | fresh
  | creating
  | counted (place : ℕ)
  | answered (place : ℕ)

def limiting (id : ℕ) (call : Call) : Protocol signature Stage where
  allows
    | .fresh, .incr key caller => key = call.key ∧ caller = id
    | .creating, .expire key _ => key = call.key
    | .counted _, .ttl _ => True
    | .counted _, .now => True
    | .counted place, .answer caller result => caller = id ∧ result.allowed = decide (place ≤ 5)
    | _, _ => False
  expects _ _ _ := True
  after
    | .fresh, .incr .., place => if place = 1 then .creating else .counted place
    | .creating, .expire .., _ => .counted 1
    | .counted place, .answer .., _ => .answered place
    | stage, _, _ => stage

theorem body_limiting (id : ℕ) (call : Call) : (server.body id call).Obeys (limiting id call)
    (fun stage _ => ∃ place, stage = .answered place) .fresh := by
  refine ⟨⟨rfl, rfl⟩, fun place _ => ?_⟩
  rcases place with _ | _ | _
  · exact ⟨trivial, fun _ _ => ⟨trivial, fun _ _ => ⟨⟨rfl, rfl⟩, fun _ _ => ⟨_, rfl⟩⟩⟩⟩
  · exact ⟨rfl, fun _ _ => ⟨trivial, fun _ _ => ⟨trivial, fun _ _ => ⟨⟨rfl, rfl⟩,
      fun _ _ => ⟨_, rfl⟩⟩⟩⟩⟩
  · exact ⟨trivial, fun _ _ => ⟨trivial, fun _ _ => ⟨⟨rfl, rfl⟩, fun _ _ => ⟨_, rfl⟩⟩⟩⟩

structure Placed (store : Store) : Prop where
  places : ∀ key, ∀ period ∈ store.periods key, ∀ i id, period[i]? = some id →
    store.places id = some (key, i + 1)
  counted : ∀ id key place, store.places id = some (key, place) →
    id ∈ (store.periods key).flatten
  once : ∀ key, (store.periods key).flatten.Nodup

/-- Counters that the call has created have an expiry, other than the given one. -/
def Expiring (store : Store) (id : ℕ) (except : Option Key) : Prop :=
  ∀ key counter, store.counters key = some counter → counter.callers.head? = some id →
    counter.expiresAt = none → some key = except

def At (store : Store) (id : ℕ) (call : Call) : Stage → Prop
  | .fresh => store.places id = none
  | .creating => store.places id = some (call.key, 1) ∧ Expiring store id (some call.key)
  | .counted place => store.places id = some (call.key, place) ∧ Expiring store id none
  | .answered place => store.places id = some (call.key, place) ∧ Expiring store id none ∧
      ∃ result, store.answers id = some result ∧ result.allowed = decide (place ≤ 5)

variable {store next : Store} {id : ℕ} {key : Key} {counter : Option Counter} {now : ℤ}

theorem Placed.exists_period (placed : Placed store) (member : id ∈ (store.periods key).flatten) :
    ∃ period ∈ store.periods key, ∃ i, period[i]? = some id ∧
      store.places id = some (key, i + 1) := by
  rcases List.mem_flatten.mp member with ⟨period, isPeriod, isCaller⟩
  rcases List.mem_iff_getElem?.mp isCaller with ⟨i, present⟩
  exact ⟨period, isPeriod, i, present, placed.places key period isPeriod i id present⟩

theorem Expiring.set {except : Option Key} (expiring : Expiring store id except)
    (own : ∀ found, counter = some found → found.callers.head? = some id →
      found.expiresAt = none → some key = except) :
    Expiring (store.set key counter) id except := by
  intro other found stored
  by_cases same : other = key
  · simp only [same, Store.set, update_self] at stored
    rw [same]
    exact own found stored
  · simp only [Store.set, update_of_ne same] at stored
    exact expiring other found stored

theorem Placed.expiring (placed : Placed store) (fresh : store.places id = none)
    (except : Option Key) : Expiring store id except := by
  intro key counter stored isHead
  have isCurrent : counter.callers ∈ store.periods key := by
    simp [Store.periods, Store.current, stored]
  rw [List.head?_eq_getElem?] at isHead
  cases fresh.symm.trans (placed.places key _ isCurrent 0 id isHead)

/-- Only the call that creates a counter has to see to its expiry. -/
theorem Expiring.incr {other : ℕ} {except : Option Key} (expiring : Expiring store other except)
    (own : (store.current key).callers = [] → other = id → some key = except) :
    Expiring (handle (.incr key id) now store).2 other except := by
  refine expiring.set ?_
  rintro _ ⟨⟩ isHead isNone
  cases callers : (store.current key).callers with
  | nil =>
    simp only [callers, List.nil_append, List.head?_cons, Option.some.injEq] at isHead
    exact own callers isHead.symm
  | cons first others =>
    cases stored : store.counters key with
    | none => simp [Store.current, stored] at callers
    | some found =>
      simp only [Store.current, stored, Option.getD_some] at callers isHead isNone
      rw [callers, List.cons_append, List.head?_cons] at isHead
      exact expiring key found stored (by rwa [callers, List.head?_cons]) isNone

theorem periods_incr (other : Key) : (handle (.incr key id) now store).2.periods other =
    if other = key then store.past key ++ [(store.current key).callers ++ [id]]
    else store.periods other := by
  split_ifs with same
  · simp [handle, Store.periods, Store.current, Store.set, same]
  · simp [handle, Store.periods, Store.current, Store.set, update_of_ne same]

theorem flatten_periods_incr : ((handle (.incr key id) now store).2.periods key).flatten =
    (store.periods key).flatten ++ [id] := by
  rw [periods_incr, if_pos rfl]
  simp [Store.periods]

theorem places_incr (other : ℕ) : (handle (.incr key id) now store).2.places other =
    if other = id then some (key, (store.current key).callers.length + 1)
    else store.places other :=
  update_apply _ _ _ _

theorem Placed.incr (placed : Placed store) (fresh : store.places id = none) :
    Placed (handle (.incr key id) now store).2 := by
  have kept {other : ℕ} {place : Key × ℕ} (known : store.places other = some place) :
      (handle (.incr key id) now store).2.places other = some place := by
    rw [places_incr, if_neg]
    · exact known
    · rintro rfl
      cases fresh.symm.trans known
  refine ⟨fun other period isPeriod i caller present => ?_, fun caller other place isPlace => ?_,
    fun other => ?_⟩
  · rw [periods_incr] at isPeriod
    split_ifs at isPeriod with same
    · subst same
      rcases List.mem_append.mp isPeriod with past | current
      · exact kept (placed.places other period (List.mem_append_left _ past) i caller present)
      · rw [List.mem_singleton.mp current, List.getElem?_append] at present
        split at present
        · exact kept (placed.places other _ (by simp [Store.periods]) i caller present)
        · obtain ⟨isLast, rfl⟩ : i - (store.current other).callers.length = 0 ∧ caller = id := by
            simpa [eq_comm, List.getElem?_singleton] using present
          rw [places_incr, if_pos rfl]
          congr 2
          omega
    · exact kept (placed.places other period isPeriod i caller present)
  · rw [places_incr] at isPlace
    split_ifs at isPlace with same
    · cases isPlace
      rw [flatten_periods_incr, same]
      exact List.mem_append_right _ List.mem_cons_self
    · have member := placed.counted caller other place isPlace
      by_cases isKey : other = key
      · rw [isKey, flatten_periods_incr]
        exact List.mem_append_left _ (isKey ▸ member)
      · rwa [periods_incr, if_neg isKey]
  · by_cases isKey : other = key
    · rw [isKey, flatten_periods_incr]
      refine (placed.once key).append (List.nodup_singleton id) ?_
      rintro _ member isId
      rw [List.mem_singleton.mp isId] at member
      rcases placed.exists_period member with ⟨_, _, _, _, isPlace⟩
      cases fresh.symm.trans isPlace
    · rw [periods_incr, if_neg isKey]
      exact placed.once other

/-- Steps that only add empty periods. -/
theorem Placed.of_periods (placed : Placed store) (places : next.places = store.places)
    (periods : ∀ key, next.periods key = store.periods key ∨
      next.periods key = store.periods key ++ [[]]) : Placed next := by
  have flatten (key : Key) : (next.periods key).flatten = (store.periods key).flatten := by
    rcases periods key with same | more <;> simp [*]
  refine ⟨fun key period isPeriod i id present => ?_, fun id key place isPlace => ?_, fun key => ?_⟩
  · rw [places]
    have wasPeriod : period ∈ store.periods key := by
      rcases periods key with same | more
      · rwa [same] at isPeriod
      · rw [more, List.mem_append, List.mem_singleton] at isPeriod
        rcases isPeriod with before | rfl
        · exact before
        · cases present
    exact placed.places key period wasPeriod i id present
  · rw [flatten]
    exact placed.counted id key place (places ▸ isPlace)
  · rw [flatten]
    exact placed.once key

theorem At.frame {call : Call} {stage : Stage} (isAt : At store id call stage)
    (places : next.places id = store.places id) (answers : next.answers id = store.answers id)
    (expiring : ∀ except, Expiring store id except → Expiring next id except) :
    At next id call stage := by
  cases stage with
  | fresh => exact places.trans isAt
  | creating => exact ⟨places.trans isAt.1, expiring _ isAt.2⟩
  | counted => exact ⟨places.trans isAt.1, expiring _ isAt.2⟩
  | answered =>
    refine ⟨places.trans isAt.1, expiring _ isAt.2.1, ?_⟩
    rw [answers]
    exact isAt.2.2

theorem incr_kept {call : Call} (placed : Placed store) (fresh : store.places id = none) :
    At (handle (.incr call.key id) now store).2 id call ((limiting id call).after .fresh
        (.incr call.key id) (handle (.incr call.key id) now store).1) ∧
      ∀ other otherCall stage, other ≠ id → At store other otherCall stage →
        At (handle (.incr call.key id) now store).2 other otherCall stage := by
  refine ⟨?_, fun other otherCall stage differs isAt => isAt.frame ?_ rfl fun except expiring => ?_⟩
  · change At _ id call (if (store.current call.key).callers.length + 1 = 1 then .creating
      else .counted ((store.current call.key).callers.length + 1))
    split_ifs with isFirst
    · refine ⟨?_, (placed.expiring fresh _).incr fun _ _ => rfl⟩
      rw [places_incr, if_pos rfl, isFirst]
    · refine ⟨?_, (placed.expiring fresh _).incr fun empty _ => ?_⟩
      · rw [places_incr, if_pos rfl]
      · exact absurd (by rw [empty]; rfl) isFirst
  · rw [places_incr, if_neg differs]
  · exact expiring.incr fun _ same => absurd same differs

theorem expire_kept {seconds : ℤ} (placed : Placed store) :
    Placed (handle (.expire key seconds) now store).2 := by
  refine placed.of_periods rfl fun other => .inl ?_
  by_cases same : other = key
  · cases stored : store.counters key <;>
      simp [handle, Store.periods, Store.current, Store.set, same, stored]
  · simp [handle, Store.periods, Store.current, Store.set, update_of_ne same]

theorem expired_kept (happened : expire key store = some next) (placed : Placed store) :
    Placed next ∧ ∀ id call stage, At store id call stage → At next id call stage := by
  rw [expire] at happened
  split at happened
  · rename_i callers expiresAt stored
    cases happened
    refine ⟨placed.of_periods rfl fun other => ?_, fun id call stage isAt =>
      isAt.frame rfl rfl fun except expiring => expiring.set (by rintro _ ⟨⟩)⟩
    by_cases same : other = key
    · exact .inr (by simp [Store.periods, Store.current, Store.set, same, stored])
    · exact .inl (by simp [Store.periods, Store.current, Store.set, update_of_ne same])
  · cases happened

theorem handle_kept (id : ℕ) (call : Call) (now : ℤ) (cmd : Cmd) (store : Store) (stage : Stage)
    (allowed : (limiting id call).allows stage cmd) (placed : Placed store)
    (isAt : At store id call stage) :
    (limiting id call).expects stage cmd (handle cmd now store).1 ∧
      Placed (handle cmd now store).2 ∧
      At (handle cmd now store).2 id call
        ((limiting id call).after stage cmd (handle cmd now store).1) ∧
      ∀ other otherCall stage, other ≠ id → At store other otherCall stage →
        At (handle cmd now store).2 other otherCall stage := by
  refine ⟨trivial, ?_⟩
  cases stage with
  | fresh =>
    cases cmd with
    | incr =>
      rcases allowed with ⟨rfl, rfl⟩
      exact ⟨placed.incr isAt, incr_kept placed isAt⟩
    | _ => cases allowed
  | creating =>
    cases cmd with
    | expire _ seconds =>
      cases allowed
      have set {found : Counter} (isFound : (store.counters call.key).map
          ({ · with expiresAt := some (now + seconds * 1000) }) = some found) :
          found.expiresAt ≠ none := by
        rcases Option.map_eq_some_iff.mp isFound with ⟨_, _, rfl⟩
        exact Option.some_ne_none _
      refine ⟨expire_kept placed, ⟨isAt.1, fun other counter stored isHead isNone => ?_⟩, ?_⟩
      · by_cases same : other = call.key
        · simp only [handle, Store.set, same, update_self] at stored
          exact absurd isNone (set stored)
        · simp only [handle, Store.set, update_of_ne same] at stored
          exact absurd (Option.some.inj (isAt.2 other counter stored isHead isNone)) same
      · exact fun other _ stage _ otherAt => otherAt.frame rfl rfl fun except expiring =>
          expiring.set fun found isFound _ isNone => absurd isNone (set isFound)
    | _ => cases allowed
  | counted place =>
    cases cmd with
    | ttl => exact ⟨placed, isAt, fun _ _ _ _ isAt => isAt⟩
    | now => exact ⟨placed, isAt, fun _ _ _ _ isAt => isAt⟩
    | answer caller result =>
      rcases allowed with ⟨rfl, isAllowed⟩
      refine ⟨⟨placed.places, placed.counted, placed.once⟩,
        ⟨isAt.1, isAt.2, result, update_self _ _ _, isAllowed⟩,
        fun _ _ _ differs otherAt => otherAt.frame rfl (update_of_ne differs _ _) fun _ => id⟩
    | _ => cases allowed
  | answered => cases cmd <;> cases allowed

/-- Each call is at one place at most, and its key is that of the period. Once it is done, its place
in a period of its key decides, and a counter whose creator is done has an expiry. -/
structure Limited (state : State signature Store Call) : Prop where
  once : ∀ key, (state.store.periods key).flatten.Nodup
  own : ∀ key, ∀ id ∈ (state.store.periods key).flatten,
    ∃ process, state.processes id = some process ∧ process.call.key = key
  done : ∀ id process, state.processes id = some process → process.program = .done () →
    ∃ result, state.store.answers id = some result ∧
      ∃ period ∈ state.store.periods process.call.key, ∃ i, period[i]? = some id ∧
        result.allowed = decide (i < 5)
  expires : ∀ key counter creator process, state.store.counters key = some counter →
    counter.callers.head? = some creator → state.processes creator = some process →
    process.program = .done () → counter.expiresAt.isSome = true

def emptyStore : Store := ⟨fun _ => none, fun _ => [], fun _ => none, fun _ => none⟩

theorem first_five_allowed {state : State signature Store Call}
    (reached : server.Reaches Server.anyStep ⟨emptyStore, fun _ => none⟩ state) :
    Limited state := by
  rcases reached.related Placed At (fun _ => rfl) body_limiting
    (by rintro _ _ _ _ _ ⟨⟩ placed; exact ⟨placed, fun _ _ _ => id⟩)
    (fun _ _ _ _ happened placed => (expired_kept happened placed).imp_right
      fun kept id call stage _ => kept id call stage)
    (fun state id call now cmd stage _ _ => handle_kept id call now cmd state.store stage)
    ⟨by simp [Store.periods, Store.current, emptyStore], by rintro _ _ _ ⟨⟩,
      by simp [Store.periods, Store.current, emptyStore]⟩ (fun _ _ => rfl) with
    ⟨placed, unstarted, running⟩
  refine ⟨placed.once, fun key id member => ?_, fun id process found done => ?_,
    fun key counter creator process stored isHead found done => ?_⟩
  · rcases placed.exists_period member with ⟨_, _, i, _, isPlace⟩
    cases found : state.processes id with
    | none => cases (unstarted id ⟨"", ""⟩ found).symm.trans isPlace
    | some process =>
      refine ⟨process, rfl, ?_⟩
      rcases running id process found with ⟨stage, isAt, _⟩
      cases stage with
      | fresh => cases isAt.symm.trans isPlace
      | creating | counted | answered =>
        exact congrArg Prod.fst (Option.some.inj (isAt.1.symm.trans isPlace))
  · rcases running id process found with ⟨_, isAt, obeys⟩
    rw [done] at obeys
    rcases obeys with ⟨place, rfl⟩
    rcases isAt with ⟨isPlace, _, result, answered, allowed⟩
    rcases placed.exists_period (placed.counted _ _ _ isPlace) with
      ⟨period, isPeriod, i, present, isSame⟩
    cases isPlace.symm.trans isSame
    exact ⟨result, answered, period, isPeriod, i, present, allowed⟩
  · rcases running creator process found with ⟨_, isAt, obeys⟩
    rw [done] at obeys
    rcases obeys with ⟨_, rfl⟩
    rw [Option.isSome_iff_ne_none]
    intro isNone
    cases isAt.2.1 key counter stored isHead isNone

/-- Six calls overlap, and the last to increment is refused. -/
theorem first_five_of_six_allowed : ∃ state, server.Reaches Server.anyStep
    ⟨emptyStore, fun _ => none⟩ state ∧
      (state.store.periods (rateLimitKey "ada" "::1") = [[5, 3, 1, 0, 2, 4]] ∧
        [5, 3, 1, 0, 2, 4].map (fun id => (state.store.answers id).map RateLimit.allowed) =
          [some true, some true, some true, some true, some true, some false]) ∧
      Limited state :=
  @Server.exists_reaches_and _ _ _ _ _ server Server.anyStep ⟨emptyStore, fun _ => none⟩
    [0, 1, 2, 3, 4, 5] (fun _ _ => true)
    ((List.range 6).map (.start · ⟨"ada", "::1"⟩) ++ [5, 3, 1, 0, 2, 4].map (.advance · 1000) ++
      [4, 2, 0, 1, 3, 5, 5, 4, 4, 3, 3, 2, 2, 1, 1, 0, 0, 5, 5].map (.advance · 2000))
    _ _ (fun _ _ _ _ => trivial) (fun _ _ => rfl) _ (by decide +kernel)
    fun _ reached => first_five_allowed reached

end CodeClash.Auth.Limiter
