import CodeClash.Judge.RateLimit
import CodeClash.Window.Sliding

/-!
# The decisions of the rate limits

Calls of one user do not overlap, their times do not go back, and no two of them have the same
member. At every later moment the members in the window are the calls that were allowed, so the
limits are exact sliding windows.
-/

namespace CodeClash.Judge.RateLimit

open Async Keys Window Services.Backend

structure Call where
  time : ℕ
  random : String
deriving DecidableEq, Repr

def Call.choice (call : Call) : Choice := ⟨call.time, call.random, false⟩

def Call.member (call : Call) : String := RateLimit.member call.time call.random

section Runs

variable {α : Type}

def check (program : Program services.signature α) (call : Call) (store : Store) : α × Store :=
  backend.alone (fun _ => call.choice) program store

structure Checked (α : Type) where
  results : List (Call × α)
  store : Store

def Checked.next (program : Program services.signature α) (checked : Checked α) (call : Call) :
    Checked α :=
  let outcome := check program call checked.store
  ⟨checked.results ++ [(call, outcome.1)], outcome.2⟩

def checkAll (program : Program services.signature α) (store : Store) (calls : List Call) :
    Checked α :=
  calls.foldl (Checked.next program) ⟨[], store⟩

def decisions (allowed : α → Bool) (results : List (Call × α)) : List Decision :=
  results.map fun result => ⟨result.1.time, allowed result.2⟩

theorem checkAll_append_singleton (program : Program services.signature α) (store : Store)
    (calls : List Call) (call : Call) :
    checkAll program store (calls ++ [call]) =
      (checkAll program store calls).next program call := by
  rw [checkAll, List.foldl_append, List.foldl_cons, List.foldl_nil, ← checkAll]

theorem map_fst_checkAll (program : Program services.signature α) (store : Store)
    (calls : List Call) : (checkAll program store calls).results.map Prod.fst = calls := by
  induction calls using List.reverseRecOn with
  | nil => rfl
  | append_singleton _ _ ih =>
    rw [checkAll_append_singleton, Checked.next, List.map_append, ih]
    rfl

end Runs

section Step

variable (key : String) (width : ℤ)

def current (now : ℤ) (store : Store) : ℕ :=
  Ranked.zCard (Ranked.zRemRangeByScore 0 (now - width) (store.get now key))

def pruned (now : ℤ) (store : Store) : Store :=
  store.alter now key (Ranked.zRemRangeByScore 0 (now - width))

def entered (call : Call) (store : Store) : Store :=
  ((pruned key width call.time store).alter call.time key
    (Ranked.zAdd call.member call.time)).expire call.time key (1000 * ttl width)

variable {key : String} {width limit : ℤ}

theorem works (call : Call) : backend.Works fun _ : ℕ => call.choice := fun _ _ => rfl

variable (key width) in
theorem alone_counted {α : Type} (call : Call) (store : Store) (next : ℕ → Prog α) :
    backend.alone (fun _ => call.choice) (do
      RateLimit.call (.zRemRangeByScore key 0 (call.time - width))
      let currentCount ← RateLimit.call (.zCard key)
      next currentCount : Prog α).run store =
      backend.alone (fun _ => call.choice) (next (current key width call.time store)).run
        (pruned key width call.time store) := by
  have counted : Cmd.read call.time (pruned key width call.time store) (.zCard key) =
      current key width call.time store := by
    rw [Cmd.read, pruned, Volatile.get_alter, current]
  rw [alone_call_bind (works call), alone_call_bind (works call), ← counted]
  rfl

theorem alone_addCall {α : Type} (call : Call) (store : Store) (value : α) :
    backend.alone (fun _ => call.choice) (do
      addCall key call.time width
      return value : Prog α).run (pruned key width call.time store) =
      (.ok value, entered key width call store) := by
  have added : backend.alone (fun _ => call.choice) (addCall key call.time width).run
      (pruned key width call.time store) = (.ok (), entered key width call store) := by
    rw [addCall, alone_ask_sense_bind, alone_call_bind (works call), alone_call (works call)]
    rfl
  rcases alone_bind added fun _ => (return value : Prog α) with ⟨_, rest⟩
  exact rest

theorem alone_denySubmission (call : Call) (store : Store) :
    backend.alone (fun _ => call.choice) (denySubmission key call.time width).run
        (pruned key width call.time store) =
      (.ok ⟨false, 0, if current key width call.time store = 0 then some (call.time + width)
        else none⟩, pruned key width call.time store) := by
  have empty : Cmd.read call.time (pruned key width call.time store) (.zRange key 0 0) = [] ↔
      current key width call.time store = 0 := by
    rw [Cmd.read, Ranked.zRange_first_eq_nil, pruned, Volatile.get_alter, current]
  rw [denySubmission, alone_call_bind (works call), backend_value, Call.choice]
  cases oldest : Cmd.read call.time (pruned key width call.time store) (.zRange key 0 0) with
  | nil =>
    rw [if_pos (empty.mp oldest)]
    rfl
  | cons =>
    rw [if_neg (fun isEmpty => List.cons_ne_nil _ _ (oldest.symm.trans (empty.mpr isEmpty)))]
    rfl

theorem check_checkRateLimit (call : Call) (store : Store) :
    check (checkRateLimit key limit width) call store =
      if (current key width call.time store : ℤ) ≥ limit then
        (false, pruned key width call.time store)
      else (true, entered key width call store) := by
  have counted := alone_counted key width call store fun currentCount =>
    if (currentCount : ℤ) ≥ limit then (pure false : Prog Bool)
    else addCall key call.time width >>= fun _ => pure true
  by_cases full : (current key width call.time store : ℤ) ≥ limit
  · rw [if_pos full] at counted ⊢
    exact alone_caught counted
  · rw [if_neg full, alone_addCall] at counted
    rw [if_neg full]
    exact alone_caught counted

theorem check_checkSubmissionRateLimit (userId : String) (call : Call) (store : Store) :
    check (checkSubmissionRateLimit userId limit width) call store =
      if (current (submissionKey userId) width call.time store : ℤ) ≥ limit then
        (⟨false, 0, if current (submissionKey userId) width call.time store = 0 then
            some (call.time + width) else none⟩,
          pruned (submissionKey userId) width call.time store)
      else (⟨true, limit - current (submissionKey userId) width call.time store - 1,
          some (call.time + width)⟩, entered (submissionKey userId) width call store) := by
  have counted := alone_counted (submissionKey userId) width call store fun currentCount =>
    if (currentCount : ℤ) ≥ limit then denySubmission (submissionKey userId) call.time width
    else addCall (submissionKey userId) call.time width >>= fun _ =>
      pure ⟨true, limit - currentCount - 1, some (call.time + width)⟩
  by_cases full : (current (submissionKey userId) width call.time store : ℤ) ≥ limit
  · rw [if_pos full, alone_denySubmission] at counted
    rw [if_pos full]
    exact alone_caught counted
  · rw [if_neg full, alone_addCall] at counted
    rw [if_neg full]
    exact alone_caught counted

end Step

section Shows

/-- From a moment on, the members in the window are the entries in it. -/
structure Shows (key : String) (width : ℤ) (entries : List (String × ℤ)) (moment : ℤ)
    (store : Store) : Prop where
  shown : ∀ now, moment ≤ now → ∀ member score, now - width < score →
    (Ranked.scoreOf (store.get now key) member = some score ↔ (member, score) ∈ entries)
  nonneg : ∀ now, moment ≤ now → ∀ member score,
    Ranked.scoreOf (store.get now key) member = some score → 0 ≤ score
  past : ∀ entry ∈ entries, entry.2 ≤ moment
  distinct : (entries.map Prod.fst).Nodup

variable {key : String} {width moment now : ℤ} {entries : List (String × ℤ)} {store : Store}

theorem shows_fresh (fresh : ∀ now, store.get now key = none) (moment : ℤ) :
    Shows key width [] moment store where
  shown now _ member score _ := by
    rw [fresh now]
    exact iff_of_false (Option.some_ne_none score).symm List.not_mem_nil
  nonneg now _ member score found := by
    rw [fresh now] at found
    cases found
  past _ member := absurd member List.not_mem_nil
  distinct := List.nodup_nil

theorem Shows.later (shows : Shows key width entries moment store) (le : moment ≤ now) :
    Shows key width entries now store where
  shown later isLater := shows.shown later (le.trans isLater)
  nonneg later isLater := shows.nonneg later (le.trans isLater)
  past entry member := (shows.past entry member).trans le
  distinct := shows.distinct

theorem removed_iff {score : ℤ} (nonneg : 0 ≤ score) (highest : ℤ) :
    (!(decide (0 ≤ score) && decide (score ≤ highest))) = true ↔ highest < score := by
  simp [nonneg]

theorem Shows.current_eq (shows : Shows key width entries moment store) (le : moment ≤ now) :
    current key width now store =
      (entries.filter fun entry => now - width < entry.2).length := by
  refine Ranked.zCard_eq_length (shows.distinct.sublist (List.filter_sublist.map _)) ?_
  intro member score
  rw [Ranked.scoreOf_zRemRangeByScore, Option.filter_eq_some_iff, List.mem_filter,
    decide_eq_true_eq]
  constructor
  · rintro ⟨found, kept⟩
    have recent := (removed_iff (shows.nonneg now le member score found) _).mp kept
    exact ⟨(shows.shown now le member score recent).mp found, recent⟩
  · rintro ⟨listed, recent⟩
    have found := (shows.shown now le member score recent).mpr listed
    exact ⟨found, (removed_iff (shows.nonneg now le member score found) _).mpr recent⟩

theorem Shows.pruned (shows : Shows key width entries moment store) (le : moment ≤ now) :
    Shows key width entries now (pruned key width now store) where
  shown later isLater member score recent := by
    rw [RateLimit.pruned, Volatile.get_alter_later isLater rfl, Ranked.scoreOf_zRemRangeByScore,
      Option.filter_eq_some_iff, ← shows.shown later (le.trans isLater) member score recent,
      and_iff_left_iff_imp]
    intro found
    rw [removed_iff (shows.nonneg later (le.trans isLater) member score found)]
    omega
  nonneg later isLater member score found := by
    rw [RateLimit.pruned, Volatile.get_alter_later isLater rfl, Ranked.scoreOf_zRemRangeByScore,
      Option.filter_eq_some_iff] at found
    exact shows.nonneg later (le.trans isLater) member score found.1
  past entry member := (shows.past entry member).trans le
  distinct := shows.distinct

theorem width_le_ttl (width : ℤ) : width ≤ 1000 * ttl width := by
  have ceil := Int.le_ceil ((width : ℚ) / 1000)
  rw [div_le_iff₀ (by norm_num)] at ceil
  rw [ttl, mul_comm]
  exact_mod_cast ceil

theorem scoreOf_entered (call : Call) (later : ℤ) (member : String) :
    Ranked.scoreOf ((entered key width call store).get later key) member =
      if later < call.time + 1000 * ttl width then
        if member = call.member then some (call.time : ℤ)
        else Ranked.scoreOf ((pruned key width call.time store).get call.time key) member
      else none := by
  rw [entered, Volatile.get_expire, Volatile.get_alter]
  split_ifs with live same
  · rw [Ranked.scoreOf_zAdd, if_pos same]
  · rw [Ranked.scoreOf_zAdd, if_neg same]
  · rfl

theorem Shows.entered {call : Call} (shows : Shows key width entries moment store)
    (le : moment ≤ call.time) (unique : call.member ∉ entries.map Prod.fst) :
    Shows key width (entries ++ [(call.member, (call.time : ℤ))]) call.time
      (entered key width call store) := by
  have before := shows.pruned le
  have past : ∀ entry ∈ entries ++ [(call.member, (call.time : ℤ))], entry.2 ≤ call.time := by
    intro entry member
    rcases List.mem_append.mp member with earlier | last
    · exact before.past entry earlier
    · rw [List.mem_singleton.mp last]
  refine ⟨?_, ?_, past, ?_⟩
  · intro later isLater member score _
    rw [scoreOf_entered]
    split_ifs with live same
    · subst same
      rw [List.mem_append, List.mem_singleton, Option.some.injEq, Prod.mk.injEq]
      constructor
      · rintro rfl
        exact Or.inr ⟨rfl, rfl⟩
      · rintro (earlier | ⟨_, rfl⟩)
        · exact absurd (List.mem_map_of_mem earlier) unique
        · rfl
    · rw [before.shown _ (le_refl _) member score (by omega), List.mem_append, List.mem_singleton]
      simp [same]
    · refine iff_of_false id fun listed => ?_
      have isPast : score ≤ call.time := past _ listed
      have covered := width_le_ttl width
      omega
  · intro _ _ member score found
    rw [scoreOf_entered] at found
    split_ifs at found with live same
    · cases found
      exact Int.natCast_nonneg _
    · exact before.nonneg _ (le_refl _) member score found
  · rw [List.map_append, List.map_singleton]
    exact shows.distinct.append (List.nodup_singleton _) (by simpa using unique)

end Shows

section Decisions

variable {α : Type} {key : String} {limit width : ℤ} {allowed : α → Bool}
  {program : Program services.signature α} {store : Store} {calls : List Call}

/-- A program that allows a call if there is room, and then adds it. -/
structure Limits (key : String) (limit width : ℤ) (allowed : α → Bool)
    (program : Program services.signature α) : Prop where
  allows : ∀ call store, allowed (check program call store).1 = true ↔
    (current key width call.time store : ℤ) < limit
  writes : ∀ call store, (check program call store).2 =
    if allowed (check program call store).1 = true then entered key width call store
    else pruned key width call.time store

theorem checkRateLimit_limits (key : String) (limit width : ℤ) :
    Limits key limit width id (checkRateLimit key limit width) where
  allows call store := by
    rw [check_checkRateLimit]
    split_ifs with full
    · exact iff_of_false Bool.false_ne_true (not_lt.mpr full)
    · exact iff_of_true rfl (not_le.mp full)
  writes call store := by
    rw [check_checkRateLimit]
    split_ifs <;> simp_all

theorem checkSubmissionRateLimit_limits (userId : String) (limit width : ℤ) :
    Limits (submissionKey userId) limit width RateLimit.allowed
      (checkSubmissionRateLimit userId limit width) where
  allows call store := by
    rw [check_checkSubmissionRateLimit]
    by_cases full : (current (submissionKey userId) width call.time store : ℤ) ≥ limit
    · rw [if_pos full]
      exact iff_of_false Bool.false_ne_true (not_lt.mpr full)
    · rw [if_neg full]
      exact iff_of_true rfl (not_le.mp full)
  writes call store := by
    rw [check_checkSubmissionRateLimit]
    split_ifs <;> simp_all

def entries (allowed : α → Bool) (results : List (Call × α)) : List (String × ℤ) :=
  (results.filter fun result => allowed result.2).map fun result =>
    (result.1.member, (result.1.time : ℤ))

theorem length_filter_entries {results : List (Call × α)} {moment : ℤ}
    (past : ∀ result ∈ results, (result.1.time : ℤ) ≤ moment) :
    ((entries allowed results).filter fun entry => moment - width < entry.2).length =
      allowedIn width moment (decisions allowed results) := by
  rw [entries, List.filter_map, List.length_map, ← List.countP_eq_length_filter, List.countP_filter,
    allowedIn, decisions, List.countP_map]
  refine List.countP_congr ?_
  intro result member
  have isPast := past result member
  simp [Within, isPast, and_comm]

/-- Times do not go back, and no two calls have the same member. -/
structure InOrder (calls : List Call) : Prop where
  times : (calls.map Call.time).Pairwise (· ≤ ·)
  members : (calls.map Call.member).Nodup

theorem InOrder.earlier {call : Call} (inOrder : InOrder (calls ++ [call])) :
    InOrder calls ∧ (∀ other ∈ calls, other.time ≤ call.time) ∧
      call.member ∉ calls.map Call.member := by
  rcases inOrder with ⟨times, members⟩
  rw [List.map_append, List.pairwise_append] at times
  rw [List.map_append, List.nodup_append] at members
  refine ⟨⟨times.1, members.1⟩, ?_, ?_⟩
  · intro _ member
    exact times.2.2 _ (List.mem_map_of_mem member) _ (List.mem_singleton_self _)
  · intro member
    exact members.2.2 _ member _ (List.mem_singleton_self _) rfl

theorem entries_append_singleton (results : List (Call × α)) (call : Call) (result : α) :
    entries allowed (results ++ [(call, result)]) =
      if allowed result = true then entries allowed results ++ [(call.member, (call.time : ℤ))]
      else entries allowed results := by
  by_cases isAllowed : allowed result = true <;> simp [entries, isAllowed]

theorem not_mem_entries {results : List (Call × α)} {member : String}
    (unique : member ∉ (results.map Prod.fst).map Call.member) :
    member ∉ (entries allowed results).map Prod.fst := by
  rw [entries, List.map_map]
  intro listed
  rcases List.mem_map.mp listed with ⟨_, isResult, rfl⟩
  refine unique (List.mem_map_of_mem (List.mem_map_of_mem ?_))
  exact List.mem_of_mem_filter isResult

theorem Limits.shows (limits : Limits key limit width allowed program)
    (fresh : ∀ now, store.get now key = none) (inOrder : InOrder calls) {moment : ℤ}
    (past : ∀ call ∈ calls, (call.time : ℤ) ≤ moment) :
    Shows key width (entries allowed (checkAll program store calls).results) moment
      (checkAll program store calls).store := by
  induction calls using List.reverseRecOn generalizing moment with
  | nil => exact shows_fresh fresh moment
  | append_singleton _ call ih =>
    rcases inOrder.earlier with ⟨earlier, times, _⟩
    have before := @ih earlier call.time fun other member =>
      Int.ofNat_le.mpr (times other member)
    have now : (call.time : ℤ) ≤ moment := past call (by simp)
    rw [checkAll_append_singleton, Checked.next, entries_append_singleton, limits.writes]
    split_ifs with isAllowed
    · refine (before.entered (le_refl _) (not_mem_entries ?_)).later now
      rwa [map_fst_checkAll]
    · exact (before.pruned (le_refl _)).later now

theorem Limits.current_eq (limits : Limits key limit width allowed program)
    (fresh : ∀ now, store.get now key = none) {call : Call} (inOrder : InOrder (calls ++ [call])) :
    current key width call.time (checkAll program store calls).store =
      allowedIn width call.time (decisions allowed (checkAll program store calls).results) := by
  rcases inOrder.earlier with ⟨earlier, times, _⟩
  have past : ∀ other ∈ calls, (other.time : ℤ) ≤ call.time := fun other member =>
    Int.ofNat_le.mpr (times other member)
  rw [(limits.shows fresh earlier past).current_eq (le_refl _), length_filter_entries]
  intro result member
  refine past result.1 ?_
  rw [← map_fst_checkAll program store calls]
  exact List.mem_map_of_mem member

theorem Limits.exact (limits : Limits key limit width allowed program)
    (fresh : ∀ now, store.get now key = none) (inOrder : InOrder calls) :
    Exact limit width (decisions allowed (checkAll program store calls).results) := by
  induction calls using List.reverseRecOn with
  | nil => exact throughout_nil
  | append_singleton _ call ih =>
    rw [checkAll_append_singleton, Checked.next, decisions, List.map_append]
    refine throughout_append_singleton.mpr ⟨ih inOrder.earlier.1, ?_⟩
    refine (limits.allows call _).trans ?_
    rw [limits.current_eq fresh inOrder]
    rfl

theorem times_decisions (program : Program services.signature α) (store : Store)
    (calls : List Call) :
    (decisions allowed (checkAll program store calls).results).map Decision.time =
      calls.map fun call => (call.time : ℤ) := by
  nth_rewrite 2 [← map_fst_checkAll program store calls]
  rw [decisions, List.map_map, List.map_map]
  rfl

end Decisions

section Submissions

variable {userId identifier : String} {limit width : ℤ} {store : Store} {calls : List Call}

theorem remaining_eq {call : Call}
    (isAllowed :
      (check (checkSubmissionRateLimit userId limit width) call store).1.allowed = true) :
    (check (checkSubmissionRateLimit userId limit width) call store).1.remaining =
      limit - 1 - current (submissionKey userId) width call.time store := by
  rw [check_checkSubmissionRateLimit] at isAllowed ⊢
  by_cases full : (current (submissionKey userId) width call.time store : ℤ) ≥ limit
  · rw [if_pos full] at isAllowed
    cases isAllowed
  · rw [if_neg full]
    exact sub_right_comm _ _ _

theorem remaining_throughout (fresh : ∀ now, store.get now (submissionKey userId) = none)
    (inOrder : InOrder calls) :
    Throughout (fun before result => result.2.allowed = true → result.2.remaining =
        limit - 1 - allowedIn width result.1.time (decisions RateLimit.allowed before))
      (checkAll (checkSubmissionRateLimit userId limit width) store calls).results := by
  have limits := checkSubmissionRateLimit_limits userId limit width
  induction calls using List.reverseRecOn with
  | nil => exact throughout_nil
  | append_singleton _ _ ih =>
    rw [checkAll_append_singleton, Checked.next]
    refine throughout_append_singleton.mpr ⟨ih inOrder.earlier.1, ?_⟩
    intro isAllowed
    rw [remaining_eq isAllowed, limits.current_eq fresh inOrder]

/--
The limit of submissions is an exact sliding window and says how many submissions are left. No
window holds more submissions than the limit, and the limits of connections and of general requests
decide in the same way.
-/
theorem checkSubmissionRateLimit_exact (positive : 1 ≤ limit) (inOrder : InOrder calls)
    (fresh : ∀ now, store.get now (submissionKey userId) = none)
    (freshConnection : ∀ now, store.get now (connectionKey userId) = none)
    (freshGeneral : ∀ now, store.get now (generalKey identifier) = none) :
    (∀ before call result after,
      (checkAll (checkSubmissionRateLimit userId limit width) store calls).results =
        before ++ (call, result) :: after →
      (result.allowed = true ↔
        (allowedIn width call.time (decisions RateLimit.allowed before) : ℤ) < limit) ∧
      (result.allowed = true → result.remaining =
        limit - 1 - allowedIn width call.time (decisions RateLimit.allowed before))) ∧
    (∀ moment, (allowedIn width moment (decisions RateLimit.allowed
      (checkAll (checkSubmissionRateLimit userId limit width) store calls).results) : ℤ) ≤ limit) ∧
    decisions id (checkAll (checkConnectionRateLimit userId limit width) store calls).results =
      decisions RateLimit.allowed
        (checkAll (checkSubmissionRateLimit userId limit width) store calls).results ∧
    decisions id (checkAll (checkGeneralRateLimit identifier limit width) store calls).results =
      decisions RateLimit.allowed
        (checkAll (checkSubmissionRateLimit userId limit width) store calls).results := by
  have exact := (checkSubmissionRateLimit_limits userId limit width).exact fresh inOrder
  have connection := (checkRateLimit_limits (connectionKey userId) limit width).exact
    freshConnection inOrder
  have general := (checkRateLimit_limits (generalKey identifier) limit width).exact
    freshGeneral inOrder
  refine ⟨?_, ?_, ?_, ?_⟩
  · intro before call result after split
    refine ⟨?_, remaining_throughout fresh inOrder before (call, result) after split⟩
    refine exact (decisions RateLimit.allowed before) ⟨call.time, result.allowed⟩
      (decisions RateLimit.allowed after) ?_
    rw [split, decisions, List.map_append]
    rfl
  · refine exact.allowedIn_le ?_ (by omega)
    rw [times_decisions]
    have ordered := inOrder.times
    rw [List.pairwise_map] at ordered ⊢
    exact ordered.imp Int.ofNat_le.mpr
  · exact connection.unique exact ((times_decisions _ _ _).trans (times_decisions _ _ _).symm)
  · exact general.unique exact ((times_decisions _ _ _).trans (times_decisions _ _ _).symm)

def sampleCalls : List Call := [⟨5, "0.25"⟩, ⟨6, "0.5"⟩, ⟨7, "0.75"⟩]

theorem sampleCalls_inOrder : InOrder sampleCalls where
  times := by decide
  members := by decide +kernel

theorem checkSubmissionRateLimit_exact_sample :
    allowedIn 60000 7 (decisions RateLimit.allowed
      (checkAll (checkSubmissionRateLimit "user" 2 60000) (fun _ => none)
        sampleCalls).results) ≤ 2 :=
  Int.ofNat_le.mp ((@checkSubmissionRateLimit_exact "user" "user" 2 60000 _ _ (by decide)
    sampleCalls_inOrder (fun _ => rfl) (fun _ => rfl) (fun _ => rfl)).2.1 7)

/-- A submission that was denied is told the moment from which on one is allowed again, if no other
is allowed in between. -/
def Truthful (program : Program services.signature RateLimit) (call : Call)
    (outcome : RateLimit × Store) : Prop :=
  ∃ resetTime : ℤ, outcome.1.resetTime = some resetTime ∧ call.time < resetTime ∧
    ∀ between next, ((call :: (between ++ [next])).map Call.time).Pairwise (· ≤ ·) →
      (∀ result ∈ (checkAll program outcome.2 between).results, result.2.allowed = false) →
      (call.time < next.time → next.time < resetTime →
        (check program next (checkAll program outcome.2 between).store).1.allowed = false) ∧
      (next.time = resetTime →
        (check program next (checkAll program outcome.2 between).store).1.allowed = true)

theorem not_truthful {call : Call}
    (denied : (check (checkSubmissionRateLimit userId limit width) call store).1.allowed = false) :
    ¬Truthful (checkSubmissionRateLimit userId limit width) call
      (check (checkSubmissionRateLimit userId limit width) call store) := by
  have limits := checkSubmissionRateLimit_limits userId limit width
  rintro ⟨resetTime, isTold, _, promise⟩
  have full : (current (submissionKey userId) width call.time store : ℤ) ≥ limit := by
    by_contra room
    rw [(limits.allows call store).mpr (not_le.mp room)] at denied
    cases denied
  rw [check_checkSubmissionRateLimit, if_pos full] at isTold
  split_ifs at isTold with empty
  have isNext : ((resetTime.toNat : ℕ) : ℤ) = resetTime := Int.toNat_of_nonneg (by omega)
  have allowed := (promise [] ⟨resetTime.toNat, ""⟩ (by simp; omega) (by simp [checkAll])).2 isNext
  have room := (limits.allows _ _).mp allowed
  omega

def submitAfter (userId : String) (limit width : ℤ) (store : Store) (before : List Call)
    (call : Call) : RateLimit × Store :=
  check (checkSubmissionRateLimit userId limit width) call
    (checkAll (checkSubmissionRateLimit userId limit width) store before).store

theorem decisions_of_allowed
    (allowed : Throughout (fun before call =>
      (submitAfter userId limit width store before call).1.allowed = true) calls) :
    decisions RateLimit.allowed
      (checkAll (checkSubmissionRateLimit userId limit width) store calls).results =
        calls.map fun call => ⟨call.time, true⟩ := by
  induction calls using List.reverseRecOn with
  | nil => rfl
  | append_singleton _ _ ih =>
    rcases throughout_append_singleton.mp allowed with ⟨earlier, last⟩
    rw [submitAfter] at last
    rw [checkAll_append_singleton, Checked.next, decisions, List.map_append, ← decisions,
      ih earlier, List.map_append, List.map_singleton, last]
    rfl

theorem allowed_throughout_iff (fresh : ∀ now, store.get now (submissionKey userId) = none)
    (inOrder : InOrder calls) :
    Throughout (fun before call =>
        (submitAfter userId limit width store before call).1.allowed = true) calls ↔
      Throughout (fun before call =>
        (before.countP fun earlier => Within width call.time earlier.time : ℤ) < limit) calls := by
  have limits := checkSubmissionRateLimit_limits userId limit width
  induction calls using List.reverseRecOn with
  | nil => exact iff_of_true throughout_nil throughout_nil
  | append_singleton calls call ih =>
    refine throughout_append_singleton.trans (Iff.trans ?_ throughout_append_singleton.symm)
    rw [and_congr_left' (ih inOrder.earlier.1).symm]
    refine and_congr_right fun allowed => ?_
    have counted : allowedIn width call.time (decisions RateLimit.allowed
        (checkAll (checkSubmissionRateLimit userId limit width) store calls).results) =
          calls.countP fun earlier => Within width call.time earlier.time := by
      rw [decisions_of_allowed allowed, allowedIn, List.countP_map]
      rfl
    rw [submitAfter, limits.allows, limits.current_eq fresh inOrder, counted]

/--
Every submission that is denied is told when there is room again exactly if none is denied: if each
of them has fewer submissions than the limit before it in its window.
-/
theorem resetTime_truthful_iff (fresh : ∀ now, store.get now (submissionKey userId) = none)
    (inOrder : InOrder calls) :
    (∀ before call after, calls = before ++ call :: after →
        (submitAfter userId limit width store before call).1.allowed = false →
        Truthful (checkSubmissionRateLimit userId limit width) call
          (submitAfter userId limit width store before call)) ↔
      ∀ before call after, calls = before ++ call :: after →
        (before.countP fun earlier => Within width call.time earlier.time : ℤ) < limit := by
  refine Iff.trans ?_ (allowed_throughout_iff fresh inOrder)
  constructor
  · intro truthful before call after split
    by_contra denied
    rw [Bool.not_eq_true] at denied
    exact not_truthful denied (truthful before call after split denied)
  · intro allowed before call after split denied
    rw [allowed before call after split] at denied
    cases denied

theorem resetTime_truthful_sample :
    ¬∀ before call after, sampleCalls = before ++ call :: after →
      (submitAfter "user" 2 60000 (fun _ => none) before call).1.allowed = false →
      Truthful (checkSubmissionRateLimit "user" 2 60000) call
        (submitAfter "user" 2 60000 (fun _ => none) before call) := by
  intro truthful
  have room := (resetTime_truthful_iff (fun _ => rfl) sampleCalls_inOrder).mp truthful
    [⟨5, "0.25"⟩, ⟨6, "0.5"⟩] ⟨7, "0.75"⟩ [] rfl
  revert room
  decide

def tenCalls : List Call := (List.range 10).map fun n => ⟨n, toString n⟩

/-- With the defaults the eleventh submission is denied and told a time that is not a number. -/
theorem eleventh_submission_told_nan :
    (submitAfter "user" 10 60000 (fun _ => none) tenCalls ⟨10, "10"⟩).1 = ⟨false, 0, none⟩ ∧
      ¬Truthful (checkSubmissionRateLimit "user" 10 60000) ⟨10, "10"⟩
        (submitAfter "user" 10 60000 (fun _ => none) tenCalls ⟨10, "10"⟩) := by
  have told : (submitAfter "user" 10 60000 (fun _ => none) tenCalls ⟨10, "10"⟩).1 =
      ⟨false, 0, none⟩ := by decide +kernel
  have denied : (submitAfter "user" 10 60000 (fun _ => none) tenCalls ⟨10, "10"⟩).1.allowed =
      false := by rw [told]
  refine ⟨told, ?_⟩
  rw [submitAfter] at denied ⊢
  exact not_truthful denied

end Submissions

end CodeClash.Judge.RateLimit
