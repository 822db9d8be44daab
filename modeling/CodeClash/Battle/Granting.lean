import CodeClash.Async.Transcript
import CodeClash.Battle.Achievements

/-!
# Achievements are granted once

Any number of `checkAndGrant` calls for one user run between each other's database calls. Each
decides by the rows that it has read at its start. The database lets one of two equal rows through,
and only that call reports the achievement.
-/

namespace CodeClash.Battle

open Async Program

def granting (userId : UserId) : Server signature Store AchievementStats Choice Unit where
  handle := handle
  accept _ store := some store
  body _ stats := checkAndGrant userId stats >>= fun _ => .done ()
  happen _ _ := none

abbrev GrantHistory := List (Record signature AchievementStats)

/-- No database call fails, apart from the creation of a row that exists. -/
def NothingFails (_ : State signature Store AchievementStats)
    (action : Action AchievementStats Choice Unit) : Prop :=
  ∀ id choice, action = .advance id choice → choice.fails = false

def Reports (userId : UserId) (history : GrantHistory) (id : ℕ) (achievement : Achievement) :
    Prop :=
  ∃ stats newlyEarned, (id, stats) ∈ startedCalls history ∧
    (checkAndGrant userId stats).Yields (transcript id history) (.ok newlyEarned) ∧
      achievement ∈ newlyEarned

section Calls

variable {userId : UserId} {stats : AchievementStats} {past : List (Answer signature)}

def Tried (userId : UserId) (past : List (Answer signature)) (achievement : Achievement) : Prop :=
  ∃ reply, ⟨.createAchievement userId achievement, reply⟩ ∈ past

variable {achievement : Achievement} {newlyEarned : List Achievement}

theorem Tried.cons (tried : Tried userId past achievement)
    (answer : Answer signature) : Tried userId (answer :: past) achievement := by
  rcases tried with ⟨reply, present⟩
  exact ⟨reply, List.mem_cons_of_mem answer present⟩

theorem grantAll_yields {earnedIds : List String} {list : List Achievement}
    (yields : (grantAll userId stats earnedIds list).Yields past newlyEarned) :
    (∀ achievement ∈ newlyEarned, ⟨.createAchievement userId achievement, .ok ()⟩ ∈ past) ∧
      ∀ achievement ∈ list, achievement.condition stats = true → achievement.id ∉ earnedIds →
        Tried userId past achievement := by
  induction list generalizing past newlyEarned with
  | nil =>
    rcases yields_done.mp yields with ⟨rfl, rfl⟩
    simp
  | cons _ _ ih =>
    rw [grantAll] at yields
    split_ifs at yields with earns
    · rcases yields_perform_bind.mp yields with ⟨reply, _, rfl, later⟩
      cases reply with
      | ok =>
        rcases yields_bind.mp later with ⟨_, _, _, rfl, before, after⟩
        rcases yields_done.mp after with ⟨rfl, rfl⟩
        rcases ih before with ⟨created, tried⟩
        rw [List.append_nil]
        refine ⟨?_, ?_⟩
        · rw [List.forall_mem_cons]
          exact ⟨List.mem_cons_self,
            fun other present => List.mem_cons_of_mem _ (created other present)⟩
        · rw [List.forall_mem_cons]
          exact ⟨fun _ _ => ⟨_, List.mem_cons_self⟩,
            fun other present meets unknown => (tried other present meets unknown).cons _⟩
      | error =>
        rcases ih later with ⟨created, tried⟩
        refine ⟨fun other present => List.mem_cons_of_mem _ (created other present), ?_⟩
        rw [List.forall_mem_cons]
        exact ⟨fun _ _ => ⟨_, List.mem_cons_self⟩,
          fun other present meets unknown => (tried other present meets unknown).cons _⟩
    · rcases ih yields with ⟨created, tried⟩
      refine ⟨created, List.forall_mem_cons.mpr ⟨?_, tried⟩⟩
      intro meets unknown
      exact (earns ⟨unknown, meets⟩).elim

theorem checkAndGrant_yields {outcome : Except Failure (List Achievement)}
    (yields : (checkAndGrant userId stats).Yields past outcome) :
    (∃ failure, ⟨.findAchievements userId, .error failure⟩ ∈ past) ∨
      ∃ earnedIds, ⟨.findAchievements userId, .ok earnedIds⟩ ∈ past ∧
        ∀ achievement ∈ ACHIEVEMENTS, achievement.condition stats = true →
          achievement.id ∉ earnedIds → Tried userId past achievement := by
  rcases yields_perform_bind.mp yields with ⟨reply, _, rfl, later⟩
  cases reply with
  | error failure => exact Or.inl ⟨failure, List.mem_cons_self⟩
  | ok earnedIds =>
    rcases yields_bind.mp later with ⟨_, _, _, rfl, before, after⟩
    rcases yields_done.mp after with ⟨rfl, _⟩
    rw [List.append_nil]
    refine Or.inr ⟨earnedIds, List.mem_cons_self, ?_⟩
    intro achievement present meets unknown
    exact ((grantAll_yields before).2 achievement present meets unknown).cons _

theorem created_of_reported (yields : (checkAndGrant userId stats).Yields past (.ok newlyEarned))
    (reported : achievement ∈ newlyEarned) :
    ⟨.createAchievement userId achievement, .ok ()⟩ ∈ past := by
  rcases yields_perform_bind.mp yields with ⟨reply, _, rfl, later⟩
  cases reply with
  | error =>
    rcases yields_done.mp later with ⟨_, impossible⟩
    cases impossible
  | ok =>
    rcases yields_bind.mp later with ⟨_, _, _, rfl, before, after⟩
    rcases yields_done.mp after with ⟨rfl, same⟩
    cases same
    rw [List.append_nil]
    exact List.mem_cons_of_mem _ ((grantAll_yields before).1 achievement reported)

end Calls

def creation (userId : UserId) : Record signature AchievementStats → Option (ℕ × String)
  | .answered id ⟨.createAchievement other achievement, .ok _⟩ =>
    if other = userId then some (id, achievement.id) else none
  | _ => none

def creations (userId : UserId) (history : GrantHistory) : List (ℕ × String) :=
  history.filterMap (creation userId)

/-- The answer is what the rows that are there now allow it to have been. -/
def Consistent (userId : UserId) (rows : List String) (answer : Answer signature) : Prop :=
  match answer with
  | ⟨.findAchievements other, reply⟩ =>
    other = userId → ∃ earnedIds, reply = .ok earnedIds ∧ ∀ id ∈ earnedIds, id ∈ rows
  | ⟨.createAchievement other achievement, _⟩ => other = userId → achievement.id ∈ rows
  | _ => True

theorem created_append (userId : UserId) (history : GrantHistory)
    (record : Record signature AchievementStats) :
    ((creations userId (history ++ [record])).map Prod.snd).reverse =
      ((creation userId record).map Prod.snd).toList ++
        ((creations userId history).map Prod.snd).reverse := by
  rw [creations, List.filterMap_append, creations]
  cases last : creation userId record <;> simp [last]

section Runs

variable {userId : UserId} {store : Store} {history : GrantHistory}
  {state : State signature Store AchievementStats}

theorem Consistent.mono {rows more : List String} {answer : Answer signature}
    (consistent : Consistent userId rows answer) (grows : ∀ id ∈ rows, id ∈ more) :
    Consistent userId more answer := by
  rcases answer with ⟨cmd, _⟩
  cases cmd with
  | findAchievements =>
    intro same
    rcases consistent same with ⟨earnedIds, isOk, present⟩
    exact ⟨earnedIds, isOk, fun id known => grows id (present id known)⟩
  | createAchievement => exact fun same => grows _ (consistent same)
  | _ => trivial

theorem rows_of_after {records : Records} {cmd : Cmd} {reply : cmd.Reply}
    (expected : unfailing.expects records cmd reply) (id : ℕ) :
    (unfailing.after records cmd reply).achievements userId =
        ((creation userId (.answered id ⟨cmd, reply⟩)).map Prod.snd).toList ++
          records.achievements userId ∧
      (∀ created ∈ creation userId (.answered id ⟨cmd, reply⟩),
        created.2 ∉ records.achievements userId) ∧
      Consistent userId ((unfailing.after records cmd reply).achievements userId)
        ⟨cmd, reply⟩ := by
  cases cmd with
  | findAchievements =>
    refine ⟨rfl, fun _ created => (by cases created), ?_⟩
    rintro rfl
    exact ⟨_, expected, fun _ known => known⟩
  | createAchievement other achievement =>
    cases reply with
    | error =>
      refine ⟨rfl, fun _ created => (by cases created), ?_⟩
      rintro rfl
      exact expected
    | ok =>
      by_cases same : other = userId
      · subst same
        refine ⟨?_, ?_, ?_⟩
        · simp [creation, unfailing, Records.grant]
        · have missing : achievement.id ∉ records.achievements other := expected
          simpa [creation] using missing
        · intro _
          simp [unfailing, Records.grant]
      · refine ⟨?_, ?_, fun isSame => (same isSame).elim⟩
        · simp [creation, same, unfailing, Records.grant, Function.update_of_ne (Ne.symm same)]
        · simp [creation, same]
  | rate =>
    cases reply <;> exact ⟨rfl, fun _ created => (by cases created), trivial⟩
  | _ => exact ⟨rfl, fun _ created => (by cases created), trivial⟩

/-- The rows are those at the start and those created, all different, and every answer is
consistent with them. -/
structure Rows (userId : UserId) (store : Store) (history : GrantHistory)
    (state : State signature Store AchievementStats) : Prop where
  rows : state.store.achievements userId =
    ((creations userId history).map Prod.snd).reverse ++ store.achievements userId
  distinct : (state.store.achievements userId).Nodup
  consistent : ∀ id answer, .answered id answer ∈ history →
    Consistent userId (state.store.achievements userId) answer

theorem Rows.started (rows : Rows userId store history state) (id : ℕ) (stats : AchievementStats)
    (processes : ℕ → Option (Process signature AchievementStats)) :
    Rows userId store (history ++ [.started id stats]) ⟨state.store, processes⟩ := by
  refine ⟨?_, rows.distinct, ?_⟩
  · rw [created_append, List.append_assoc, ← rows.rows]
    rfl
  · intro other answer present
    rcases List.mem_append.mp present with earlier | isStart
    · exact rows.consistent other answer earlier
    · cases List.mem_singleton.mp isStart

theorem Rows.answered (rows : Rows userId store history state) (id : ℕ) (cmd : Cmd)
    {choice : Choice} (answers : choice.fails = false)
    (processes : ℕ → Option (Process signature AchievementStats)) :
    Rows userId store (history ++ [.answered id ⟨cmd, (handle cmd choice state.store).1⟩])
      ⟨(handle cmd choice state.store).2, processes⟩ := by
  rcases handle_unfailing cmd answers state.store with ⟨expected, after⟩
  rcases @rows_of_after userId _ _ _ expected id with ⟨added, isNew, consistent⟩
  rw [← after] at added consistent
  change (handle cmd choice state.store).2.achievements userId =
    _ ++ state.store.achievements userId at added
  have grows : ∀ row ∈ state.store.achievements userId,
      row ∈ (handle cmd choice state.store).2.achievements userId := by
    intro _ present
    rw [added]
    exact List.mem_append_right _ present
  refine ⟨?_, ?_, ?_⟩
  · rw [created_append, List.append_assoc, ← rows.rows]
    exact added
  · rw [added]
    cases made : creation userId (.answered id ⟨cmd, (handle cmd choice state.store).1⟩) with
    | none => exact rows.distinct
    | some created => exact List.nodup_cons.mpr ⟨isNew created made, rows.distinct⟩
  · intro other answer present
    rcases List.mem_append.mp present with earlier | isLast
    · exact (rows.consistent other answer earlier).mono grows
    · cases List.mem_singleton.mp isLast
      exact consistent

theorem rows_of_runs (unique : (store.achievements userId).Nodup)
    (runs : (granting userId).Runs NothingFails ⟨store, fun _ => none⟩ history state) :
    Rows userId store history state := by
  induction runs with
  | refl => exact ⟨rfl, unique, fun _ _ present => by cases present⟩
  | @start _ _ id stats _ _ _ _ accepted ih =>
    cases accepted
    exact ih.started id stats _
  | @advance _ _ id choice _ cmd _ _ met _ ih =>
    exact ih.answered id cmd (met id choice rfl) _
  | happen _ _ happened => cases happened

variable {id : ℕ} {achievement : Achievement}

theorem mem_creations (reports : Reports userId history id achievement) :
    (id, achievement.id) ∈ creations userId history := by
  rcases reports with ⟨_, _, _, yields, reported⟩
  have created := mem_of_mem_transcript (created_of_reported yields reported)
  exact List.mem_filterMap.mpr ⟨_, created, if_pos rfl⟩

theorem reported_by_one {other : ℕ}
    (rows : Rows userId store history state) (first : Reports userId history id achievement)
    (second : Reports userId history other achievement) : id = other := by
  have distinct := rows.distinct
  rw [rows.rows, List.nodup_append, List.nodup_reverse] at distinct
  have same := List.inj_on_of_nodup_map distinct.1 (mem_creations first) (mem_creations second) rfl
  exact congrArg Prod.fst same

theorem earned_has_row {stats : AchievementStats}
    (runs : (granting userId).Runs NothingFails ⟨store, fun _ => none⟩ history state)
    (rows : Rows userId store history state) (found : state.processes id = some ⟨stats, .done ()⟩)
    (present : achievement ∈ ACHIEVEMENTS) (meets : achievement.condition stats = true) :
    achievement.id ∈ state.store.achievements userId := by
  rcases runs.yields (fun _ => rfl) (fun _ _ => rfl) found with ⟨_, yields⟩
  have consistent (answer : Answer signature) (inTranscript : answer ∈ transcript id history) :=
    rows.consistent id answer (mem_of_mem_transcript inTranscript)
  rcases checkAndGrant_yields yields with ⟨_, failed⟩ | ⟨earnedIds, read, tries⟩
  · rcases consistent _ failed rfl with ⟨_, impossible, _⟩
    cases impossible
  · by_cases known : achievement.id ∈ earnedIds
    · rcases consistent _ read rfl with ⟨_, same, held⟩
      cases same
      exact held _ known
    · rcases tries achievement present meets known with ⟨_, tried⟩
      exact consistent _ tried rfl

/-- Each achievement is reported by at most one call, the user has no two rows for it, and has a row
for whatever a call that has returned found earned. -/
theorem granted_once (unique : (store.achievements userId).Nodup)
    (runs : (granting userId).Runs NothingFails ⟨store, fun _ => none⟩ history state) :
    (∀ achievement id other, Reports userId history id achievement →
      Reports userId history other achievement → id = other) ∧
    (state.store.achievements userId).Nodup ∧
    ∀ id stats, state.processes id = some ⟨stats, .done ()⟩ →
      ∀ achievement ∈ ACHIEVEMENTS, achievement.condition stats = true →
        achievement.id ∈ state.store.achievements userId := by
  have rows := rows_of_runs unique runs
  refine ⟨?_, rows.distinct, ?_⟩
  · intro achievement id _ first second
    exact reported_by_one rows first second
  · intro _ _ found _ present meets
    exact earned_has_row runs rows found present meets

end Runs

def nothingFails (_ : State signature Store AchievementStats) :
    Action AchievementStats Choice Unit → Bool
  | .advance _ choice => !choice.fails
  | _ => true

theorem nothingFails_sound {ids : List ℕ} (state : State signature Store AchievementStats)
    (action : Action AchievementStats Choice Unit) (_only : state.Only ids)
    (checked : nothingFails state action = true) : NothingFails state action := by
  rintro _ _ rfl
  simpa [nothingFails] using checked

def tenthVictory : AchievementStats := ⟨10, 0, 1, none, none, none, some true⟩

def rivalGrants : List (Action AchievementStats Choice Unit) :=
  [.start 0 tenthVictory, .start 1 tenthVictory, .advance 0 default, .advance 1 default,
    .advance 0 default, .advance 1 default, .advance 1 default, .advance 0 default]

theorem rival_grants_once :
    ∃ history state, (granting "a").Runs NothingFails ⟨newcomers, fun _ => none⟩ history state ∧
      startedCalls history = [(0, tenthVictory), (1, tenthVictory)] ∧
      creations "a" history = [(0, "first-blood"), (1, "veteran")] ∧
      (∀ achievement id other, Reports "a" history id achievement →
        Reports "a" history other achievement → id = other) ∧
      (state.store.achievements "a").Nodup ∧
      ∀ achievement ∈ ACHIEVEMENTS, achievement.condition tenthVictory = true →
        achievement.id ∈ state.store.achievements "a" := by
  have run : ∃ history state,
      (granting "a").Runs NothingFails ⟨newcomers, fun _ => none⟩ history state ∧
        (∀ id process, state.processes id = some process → process.program = .done ()) ∧
          (startedCalls history = [(0, tenthVictory), (1, tenthVictory)] ∧
            creations "a" history = [(0, "first-blood"), (1, "veteran")] ∧
              (state.processes 0).map Process.call = some tenthVictory) := by
    apply Server.exists_runs [0, 1] nothingFails rivalGrants
    · exact nothingFails_sound
    · intro _ _
      rfl
    · decide +kernel
  rcases run with ⟨history, state, runs, finished, started, created, called⟩
  rcases granted_once List.nodup_nil runs with ⟨once, distinct, held⟩
  rcases Option.map_eq_some_iff.mp called with ⟨⟨_, _⟩, found, rfl⟩
  cases finished 0 _ found
  exact ⟨history, state, runs, started, created, once, distinct, held 0 _ found⟩

end CodeClash.Battle
