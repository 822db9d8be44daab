import CodeClash.Keys.Ranked
import CodeClash.Keys.Volatile
import CodeClash.Window.Sliding
import Mathlib.Data.String.Basic

/-!
# The rate limit of the cache

`checkRateLimit` of `packages/backend/src/services/cache.service.ts`. The calls of an identifier
are kept in a sorted set whose only member is the identifier, so a call that is allowed replaces
the one before. A call takes no time, and Redis does not fail.
-/

namespace CodeClash.Backend.Cache

open Keys Window

structure RateLimit where
  allowed : Bool
  remaining : ℤ
  resetTime : ℤ
deriving DecidableEq

abbrev Store := Volatile String (Ranked String)

def rateLimitKey (identifier : String) : String := "rate_limit:" ++ identifier

/-- `Math.ceil(windowMs / 1000)` -/
def ttl (windowMs : ℤ) : ℤ := (windowMs + 999) / 1000

def clean (identifier : String) (windowMs : ℤ) (now : ℕ) (store : Store) : Store :=
  store.alter now (rateLimitKey identifier) (Ranked.zRemRangeByScore 0 (now - windowMs))

def add (identifier : String) (windowMs : ℤ) (now : ℕ) (store : Store) : Store :=
  (store.alter now (rateLimitKey identifier) (Ranked.zAdd identifier now)).expire now
    (rateLimitKey identifier) (1000 * ttl windowMs)

def checkRateLimit (identifier : String) (limit windowMs : ℤ) (now : ℕ) (store : Store) :
    RateLimit × Store :=
  let cleaned := clean identifier windowMs now store
  let set := cleaned.get now (rateLimitKey identifier)
  if Ranked.zCard set ≥ limit then
    let oldest := ((set.map Ranked.ascending).getD []).head?
    (⟨false, 0, (oldest.map Prod.snd).getD now + windowMs⟩, cleaned)
  else
    (⟨true, limit - Ranked.zCard set - 1, now + windowMs⟩, add identifier windowMs now cleaned)

structure Checked where
  decisions : List Decision
  store : Store

def Checked.next (identifier : String) (limit windowMs : ℤ) (checked : Checked) (now : ℕ) :
    Checked :=
  let outcome := checkRateLimit identifier limit windowMs now checked.store
  ⟨checked.decisions ++ [⟨now, outcome.1.allowed⟩], outcome.2⟩

def checkAll (identifier : String) (limit windowMs : ℤ) (store : Store) (times : List ℕ) :
    Checked :=
  times.foldl (Checked.next identifier limit windowMs) ⟨[], store⟩

variable {identifier : String} {limit windowMs moment : ℤ} {times : List ℕ} {store : Store}
  {last : Option ℤ} {now : ℕ}

def recent (windowMs moment : ℤ) (last : Option ℤ) : Option ℤ := last.filter (moment - windowMs < ·)

/-- From a moment on, the window holds at most the last call that was allowed. -/
def Shows (identifier : String) (windowMs : ℤ) (last : Option ℤ) (moment : ℤ) (store : Store) :
    Prop :=
  ∀ later, moment ≤ later → ∀ member,
    Ranked.scoreOf (Ranked.zRemRangeByScore 0 (later - windowMs)
        (store.get later (rateLimitKey identifier))) member =
      if member = identifier then recent windowMs later last else none

section Shows

variable (shows : Shows identifier windowMs last moment store) (le : moment ≤ now)

include shows le

theorem Shows.zCard_eq :
    Ranked.zCard ((clean identifier windowMs now store).get now (rateLimitKey identifier)) =
      (recent windowMs now last).toList.length := by
  rw [clean, Volatile.get_alter, ← List.length_map (fun score => (identifier, score))]
  refine Ranked.zCard_eq_length ?_ ?_
  · cases recent windowMs now last <;> simp
  · intro member score
    rw [shows now le member]
    by_cases same : member = identifier
    · simp [same, eq_comm]
    · simp [same, Ne.symm same]

theorem Shows.clean :
    Shows identifier windowMs last now (clean identifier windowMs now store) := by
  intro later isLater member
  rw [← shows later (le.trans isLater) member, Cache.clean,
    Volatile.get_alter_later isLater rfl]
  simp only [Ranked.scoreOf_zRemRangeByScore, Option.filter_filter]
  congr 1
  funext score
  grind

theorem Shows.add :
    Shows identifier windowMs (some now) now
      (add identifier windowMs now (Cache.clean identifier windowMs now store)) := by
  intro later isLater member
  have covered : windowMs ≤ 1000 * ttl windowMs := by
    unfold ttl
    omega
  rw [Cache.add, Volatile.get_expire, Volatile.get_alter, Cache.clean, Volatile.get_alter]
  split_ifs with live same
  · rw [Ranked.scoreOf_zRemRangeByScore, Ranked.scoreOf_zAdd, if_pos same]
    simp [recent, Option.filter_some]
  · rw [Ranked.scoreOf_zRemRangeByScore, Ranked.scoreOf_zAdd, if_neg same, shows now le member,
      if_neg same]
    rfl
  · rw [recent, Option.filter_some_neg (by simp; omega)]
    rfl
  · rfl

theorem Shows.checkRateLimit (limit : ℤ) :
    ((checkRateLimit identifier limit windowMs now store).1.allowed = true ↔
        ((recent windowMs now last).toList.length : ℤ) < limit) ∧
      Shows identifier windowMs
        (if (checkRateLimit identifier limit windowMs now store).1.allowed then some (now : ℤ)
          else last)
        now (checkRateLimit identifier limit windowMs now store).2 := by
  rw [← shows.zCard_eq le]
  unfold Cache.checkRateLimit
  dsimp only
  by_cases full : (Ranked.zCard ((Cache.clean identifier windowMs now store).get now
      (rateLimitKey identifier)) : ℤ) ≥ limit
  · rw [if_pos full]
    exact ⟨iff_of_false Bool.false_ne_true (not_lt.mpr full), shows.clean le⟩
  · rw [if_neg full]
    exact ⟨iff_of_true rfl (not_le.mp full), shows.add le⟩

end Shows

def lastAllowed (decisions : List Decision) : Option ℤ :=
  (decisions.filter Decision.allowed).getLast?.map Decision.time

theorem lastAllowed_append_singleton (decisions : List Decision) (decision : Decision) :
    lastAllowed (decisions ++ [decision]) =
      if decision.allowed then some decision.time else lastAllowed decisions := by
  cases allowed : decision.allowed <;> simp [lastAllowed, allowed]

theorem checkAll_append_singleton (times : List ℕ) (now : ℕ) :
    checkAll identifier limit windowMs store (times ++ [now]) =
      (checkAll identifier limit windowMs store times).next identifier limit windowMs now := by
  rw [checkAll, List.foldl_append, List.foldl_cons, List.foldl_nil, ← checkAll]

theorem map_time_checkAll (times : List ℕ) :
    (checkAll identifier limit windowMs store times).decisions.map Decision.time =
      times.map Nat.cast := by
  induction times using List.reverseRecOn with
  | nil => rfl
  | append_singleton times now ih =>
    rw [checkAll_append_singleton, Checked.next, List.map_append, ih, List.map_append]
    rfl

/-- The calls are in the order of their times, and no call was made before. -/
structure Timely (identifier : String) (store : Store) (times : List ℕ) : Prop where
  fresh : store (rateLimitKey identifier) = none
  ordered : times.Pairwise (· ≤ ·)

theorem Timely.init (timely : Timely identifier store (times ++ [now])) :
    Timely identifier store times ∧ ∀ time ∈ times, (time : ℤ) ≤ now := by
  have ordered := List.pairwise_append.mp timely.ordered
  refine ⟨⟨timely.fresh, ordered.1⟩, fun time member => ?_⟩
  exact_mod_cast ordered.2.2 time member now (List.mem_singleton_self _)

theorem Timely.shows (timely : Timely identifier store times)
    (past : ∀ time ∈ times, (time : ℤ) ≤ moment) :
    Shows identifier windowMs
      (lastAllowed (checkAll identifier limit windowMs store times).decisions) moment
      (checkAll identifier limit windowMs store times).store := by
  induction times using List.reverseRecOn generalizing moment with
  | nil =>
    intro later _ member
    have missing : store.get later (rateLimitKey identifier) = none := by
      rw [Volatile.get, Volatile.held, timely.fresh]
      rfl
    rw [checkAll, List.foldl_nil, missing]
    exact (ite_self _).symm
  | append_singleton times now ih =>
    rw [checkAll_append_singleton, Checked.next, lastAllowed_append_singleton]
    have step := ((ih timely.init.1 timely.init.2).checkRateLimit (le_refl _) limit).2
    exact fun later isLater => step later ((past now (by simp)).trans isLater)

theorem Timely.allowed_iff (limit windowMs : ℤ)
    (timely : Timely identifier store (times ++ [now])) :
    (checkRateLimit identifier limit windowMs now
        (checkAll identifier limit windowMs store times).store).1.allowed = true ↔
      ((recent windowMs now (lastAllowed
        (checkAll identifier limit windowMs store times).decisions)).toList.length : ℤ) < limit :=
  ((timely.init.1.shows timely.init.2).checkRateLimit (le_refl _) limit).1

theorem Timely.past (limit windowMs : ℤ)
    (timely : Timely identifier store (times ++ [now])) :
    ∀ decision ∈ (checkAll identifier limit windowMs store times).decisions,
      decision.time ≤ now := by
  intro decision member
  have listed := List.mem_map_of_mem (f := Decision.time) member
  rw [map_time_checkAll] at listed
  rcases List.mem_map.mp listed with ⟨time, isTime, same⟩
  exact same ▸ timely.init.2 time isTime

/-- With room for two, every call is allowed. -/
theorem Timely.all_allowed (timely : Timely identifier store times) (room : 2 ≤ limit) :
    (checkAll identifier limit windowMs store times).decisions =
      times.map fun now => ⟨now, true⟩ := by
  induction times using List.reverseRecOn with
  | nil => rfl
  | append_singleton times now ih =>
    have allowed := (timely.allowed_iff limit windowMs).mpr (by
      cases recent windowMs now _ <;> simp <;> omega)
    rw [checkAll_append_singleton, Checked.next, allowed, ih timely.init.1, List.map_append]
    rfl

/-- With room for one, the set holds the calls that were allowed in the window. -/
theorem Timely.exact (timely : Timely identifier store times) :
    Exact 1 windowMs (checkAll identifier 1 windowMs store times).decisions ∧
      ∀ moment, (∀ time ∈ times, (time : ℤ) ≤ moment) →
        allowedIn windowMs moment (checkAll identifier 1 windowMs store times).decisions =
          (recent windowMs moment (lastAllowed
            (checkAll identifier 1 windowMs store times).decisions)).toList.length := by
  induction times using List.reverseRecOn with
  | nil => exact ⟨throughout_nil, fun _ _ => rfl⟩
  | append_singleton times now ih =>
    rcases ih timely.init.1 with ⟨exact, counts⟩
    have allows := timely.allowed_iff 1 windowMs
    rw [← counts now timely.init.2] at allows
    rw [checkAll_append_singleton, Checked.next]
    refine ⟨throughout_append_singleton.mpr ⟨exact, allows⟩, fun moment past => ?_⟩
    rw [allowedIn_append_singleton, lastAllowed_append_singleton]
    dsimp only
    cases allowed : (checkRateLimit identifier 1 windowMs now
        (checkAll identifier 1 windowMs store times).store).1.allowed with
    | false =>
      rw [counts moment fun time member => past time (List.mem_append_left _ member)]
      simp
    | true =>
      have le : (now : ℤ) ≤ moment := past now (by simp)
      have fewer := @allowedIn_le_of_le windowMs _ _ _ le (timely.past 1 windowMs)
      have none : allowedIn windowMs moment
          (checkAll identifier 1 windowMs store times).decisions = 0 := by
        have room := allows.mp allowed
        omega
      rw [none]
      by_cases inside : moment - windowMs < now <;>
        simp [recent, Within, inside, le, Option.filter_some]

theorem checkRateLimit_limits_iff (identifier : String) (limit windowMs : ℤ) (store : Store)
    (times : List ℕ) (positive : 1 ≤ limit) (timely : Timely identifier store times) :
    (∀ moment, (allowedIn windowMs moment
        (checkAll identifier limit windowMs store times).decisions : ℤ) ≤ limit) ↔
      limit = 1 ∨
        ∀ moment, (times.countP (fun time : ℕ => Within windowMs moment time) : ℤ) ≤ limit := by
  rcases eq_or_lt_of_le positive with rfl | more
  · refine iff_of_true (timely.exact.1.allowedIn_le ?_ zero_le_one) (Or.inl rfl)
    rw [map_time_checkAll, List.pairwise_map]
    exact timely.ordered.imp Int.ofNat_le.mpr
  · rw [timely.all_allowed more, or_iff_right more.ne']
    simp only [allowedIn, List.countP_map]
    rfl

theorem checkRateLimit_limits_one :
    (allowedIn 1000 5 (checkAll "ip" 1 1000 (fun _ => none) [0, 5]).decisions : ℤ) ≤ 1 :=
  (checkRateLimit_limits_iff "ip" 1 1000 (fun _ => none) [0, 5] (le_refl 1)
    ⟨rfl, by decide⟩).mpr (Or.inl rfl) 5

/-- Three calls at once are allowed where two are. -/
theorem third_call_is_allowed :
    ¬∀ moment, (allowedIn 1000 moment
      (checkAll "ip" 2 1000 (fun _ => none) [0, 0, 0]).decisions : ℤ) ≤ 2 := by
  intro limited
  have timely : Timely "ip" (fun _ => none) [0, 0, 0] := ⟨rfl, by decide⟩
  have allowed := limited 0
  rw [timely.all_allowed (le_refl 2)] at allowed
  revert allowed
  decide

end CodeClash.Backend.Cache
