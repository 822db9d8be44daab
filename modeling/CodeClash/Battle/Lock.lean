import CodeClash.Battle.Footprint

/-!
# The submission lock

The lock of a user is spread over two Redis keys: the lock itself, set only if absent, and a value
key. A release reads the value key, deletes the lock by a script if the value key still has the
value that was read, and deletes the value key. Nothing ties the value to the call that releases. If
no unlock script runs on a value that another call has set, and the lock does not expire under a
running call, at most one call is between acquiring and releasing.
-/

namespace CodeClash.Battle

open Async Program Function Server

def Event.onLock (userId : UserId) : Event → Bool
  | .acquired user _ | .deleted user _ _ | .released user _ => user = userId
  | _ => false

/-- The call has acquired the lock of the user and not yet released it. -/
def LockHeld (userId : UserId) (log : List Event) (id : ℕ) : Prop :=
  .acquired userId id ∈ log ∧ .released userId id ∉ log

instance (userId : UserId) (log : List Event) (id : ℕ) : Decidable (LockHeld userId log id) :=
  inferInstanceAs (Decidable (_ ∧ _))

/-- At most one call is between acquiring and releasing the lock, and only the owner
has ever deleted it. -/
structure LockCorrect (userId : UserId) (log : List Event) : Prop where
  exclusive : ∀ first second, LockHeld userId log first → LockHeld userId log second →
    first = second
  deletedByOwner : ∀ owner call, .deleted userId owner call ∈ log → owner = call

/-- The script of a release matches the value key only if the value is the call's own,
and the lock expires only after its owner is done. -/
structure ReleasesOwn (userId : UserId) (state : ServerState) (action : ServerAction) :
    Prop where
  ownValue : ∀ id choice token, action = .advance id choice →
    state.issued action = some (.evalUnlock userId token id) →
      state.store.lockValues userId = some token → token = id
  expiresAfter : action = .happen (.lockExpired userId) → ∀ owner process,
    state.store.locks userId = some owner → state.processes owner = some process →
      process.program = .done ()

structure LockView where
  lock : Option ℕ
  value : Option ℕ
  events : List Event

def lockView (userId : UserId) (store : Store) : LockView where
  lock := store.locks userId
  value := store.lockValues userId
  events := store.log.filter (Event.onLock userId)

variable {userId : UserId}

theorem mem_lockView_events {store : Store} {event : Event} :
    event ∈ (lockView userId store).events ↔ event ∈ store.log ∧ event.onLock userId = true := by
  simp [lockView, List.mem_filter]

def Cmd.LockFree (userId : UserId) (cmd : Cmd) : Prop := ¬cmd.Locking userId

section Commands

variable {userId : UserId} {choice : Choice} {store : Store}

theorem lockView_of_lockFree {cmd : Cmd} (other : cmd.LockFree userId) :
    lockView userId (handle cmd choice store).2 = lockView userId store := by
  cases cmd with
  | setLock user =>
    have differs : user ≠ userId := other
    simp only [handle, Store.setLock]
    split
    · rfl
    · simp [lockView, Event.onLock, differs, update_of_ne differs.symm]
  | setLockValue user =>
    have differs : user ≠ userId := other
    simp [handle, lockView, update_of_ne differs.symm]
  | getLockValue user =>
    have differs : user ≠ userId := other
    simp only [handle, Store.getLockValue]
    split
    · rfl
    · simp [lockView, Event.onLock, differs]
  | evalUnlock user =>
    have differs : user ≠ userId := other
    simp only [handle, Store.evalUnlock]
    split
    · split <;> simp [lockView, Event.onLock, differs, update_of_ne differs.symm]
    · simp [lockView, Event.onLock, differs]
  | delLockValue user =>
    have differs : user ≠ userId := other
    simp [handle, lockView, update_of_ne differs.symm]
  | setBattle => simp [handle, Store.save, lockView, Event.onLock]
  | clearInterval _ save =>
    cases save <;> simp [handle, Store.clearInterval, Store.save, lockView, Event.onLock]
  | rate =>
    simp only [handle, Store.rate]
    split
    · simp [lockView, Event.onLock]
    · rfl
  | createAchievement =>
    simp only [handle]
    split <;> rfl
  | _ => rfl

end Commands

/-- Where a call stands with the lock: it has not tried to acquire it, has set the lock but not the
value, holds it, has run the unlock script, or does not hold it. `read` is the value that a release
in progress has read. -/
inductive LockPhase where
  | fresh
  | acquired
  | held (read : Option ℕ)
  | freed
  | outside (read : Option ℕ)

namespace LockPhase

def Over : LockPhase → Prop
  | fresh | outside _ => True
  | _ => False

def Releases : LockPhase → Prop
  | held _ | outside _ => True
  | _ => False

def afterRead (found : Option ℕ) : LockPhase → LockPhase
  | held _ => match found with
      | some token => held (some token)
      | none => outside none
  | _ => outside found

def afterUnlock : LockPhase → LockPhase
  | held _ => freed
  | _ => outside none

def Agrees (userId : UserId) (id : ℕ) (view : LockView) : LockPhase → Prop
  | fresh => .acquired userId id ∉ view.events ∧ view.value ≠ some id
  | acquired | held _ => view.lock = some id
  | freed => .released userId id ∈ view.events
  | outside read =>
    (.acquired userId id ∉ view.events ∨ .released userId id ∈ view.events) ∧
      view.value ≠ some id ∧ read ≠ some id

end LockPhase

/-- The order in which a call may use the keys of the user's lock. -/
def locking (userId : UserId) (self : ℕ) : Protocol signature LockPhase where
  allows phase cmd :=
    match cmd with
    | .setLock user token => user = userId → phase = .fresh ∧ token = self
    | .setLockValue user token => user = userId → phase = .acquired ∧ token = self
    | .getLockValue user caller => user = userId → phase.Releases ∧ caller = self
    | .evalUnlock user token caller =>
      user = userId → (phase = .held (some token) ∨ phase = .outside (some token)) ∧
        caller = self
    | .delLockValue user => user = userId → phase = .freed ∨ phase = .outside none
    | _ => True
  expects _ _ _ := True
  after phase cmd reply :=
    match cmd, reply with
    | .setLock user _, success =>
      if user = userId then if success then .acquired else .outside none else phase
    | .setLockValue user _, _ => if user = userId then .held none else phase
    | .getLockValue user _, found => if user = userId then phase.afterRead found else phase
    | .evalUnlock user _ _, _ => if user = userId then phase.afterUnlock else phase
    | .delLockValue user, _ => if user = userId then .outside none else phase
    | _, _ => phase

section Calls

variable {userId : UserId} {self : ℕ} {cmd : Cmd} {phase : LockPhase} {token : ℕ}

theorem Cmd.Quiet.lockFree (quiet : cmd.Quiet) : cmd.LockFree userId := by
  cases cmd <;> simp_all [Cmd.Quiet, Cmd.LockFree, Cmd.Locking]

theorem allowsRoom_lockFree (roomId : RoomId) : AllowsRoom (Cmd.LockFree userId) roomId where
  quiet _ quiet := quiet.lockFree
  rates _ := not_false
  stores _ _ := not_false
  reads := not_false
  sets _ := not_false

theorem Cmd.LockFree.allowed (other : cmd.LockFree userId) :
    (locking userId self).allows phase cmd := by
  cases cmd with
  | setLock => exact fun same => absurd same other
  | setLockValue => exact fun same => absurd same other
  | getLockValue => exact fun same => absurd same other
  | evalUnlock => exact fun same => absurd same other
  | delLockValue => exact fun same => absurd same other
  | _ => trivial

theorem Cmd.LockFree.after_eq (other : cmd.LockFree userId)
    (reply : cmd.Reply) : (locking userId self).after phase cmd reply = phase := by
  cases cmd with
  | setLock => exact if_neg other
  | setLockValue => exact if_neg other
  | getLockValue => exact if_neg other
  | evalUnlock => exact if_neg other
  | delLockValue => exact if_neg other
  | _ => rfl

variable {α : Type} {caller : ℕ}

theorem locking_obeys_of_uses {post : LockPhase → α → Prop} {program : Prog α}
    (uses : program.Uses (Cmd.LockFree userId))
    (final : ∀ value, post phase value) : program.Obeys (locking userId self) post phase :=
  obeys_of_uses (fun _ other => other.allowed) (fun _ other => other.after_eq) uses final

theorem locking_obeys_quiet_bind {post : LockPhase → α → Prop}
    {next : cmd.Reply → Prog α} (quiet : cmd.Quiet)
    (later : ∀ reply, (next reply).Obeys (locking userId self) post phase) :
    (request cmd >>= next).Obeys (locking userId self) post phase := by
  apply obeys_bind.mpr
  exact locking_obeys_of_uses (uses_perform quiet.lockFree) later

@[simp]
theorem locking_after_setLock (success : Bool) :
    (locking userId self).after phase (.setLock userId token) success =
      if success then .acquired else .outside none :=
  if_pos rfl

@[simp]
theorem locking_after_setLockValue (reply : Unit) :
    (locking userId self).after phase (.setLockValue userId token) reply = .held none :=
  if_pos rfl

@[simp]
theorem locking_after_getLockValue (found : Option ℕ) :
    (locking userId self).after phase (.getLockValue userId caller) found =
      phase.afterRead found :=
  if_pos rfl

@[simp]
theorem locking_after_evalUnlock (reply : Unit) :
    (locking userId self).after phase (.evalUnlock userId token caller) reply =
      phase.afterUnlock :=
  if_pos rfl

@[simp]
theorem locking_after_delLockValue (reply : Unit) :
    (locking userId self).after phase (.delLockValue userId) reply = .outside none :=
  if_pos rfl

theorem acquire_obeys {post : LockPhase → Bool → Prop} (got : post (.held none) true)
    (missed : post (.outside none) false) :
    (acquireDistributedLock userId self).Obeys (locking userId self) post .fresh := by
  apply obeys_perform_bind
  · intro _
    exact ⟨rfl, rfl⟩
  intro success _
  rw [locking_after_setLock]
  cases success with
  | true =>
    apply obeys_perform_bind
    · intro _
      exact ⟨rfl, rfl⟩
    intro _ _
    rw [locking_after_setLockValue]
    exact got
  | false => exact missed

def LockPhase.Idle (phase : LockPhase) : Prop := phase = .held none ∨ phase = .outside none

theorem release_obeys_locking {post : LockPhase → Unit → Prop}
    (idle : phase.Idle) (final : post (.outside none) ()) :
    (releaseDistributedLock userId self).Obeys (locking userId self) post phase := by
  apply obeys_perform_bind
  · intro _
    rcases idle with rfl | rfl
    · exact ⟨trivial, rfl⟩
    · exact ⟨trivial, rfl⟩
  intro found _
  rw [locking_after_getLockValue]
  cases found with
  | none => rcases idle with rfl | rfl <;> exact final
  | some =>
    apply obeys_perform_bind
    · intro _
      rcases idle with rfl | rfl
      · exact ⟨Or.inl rfl, rfl⟩
      · exact ⟨Or.inr rfl, rfl⟩
    intro reply _
    rw [locking_after_evalUnlock]
    refine ⟨?_, ?_⟩
    · intro _
      rcases idle with rfl | rfl
      · exact Or.inl rfl
      · exact Or.inr rfl
    · intro _ _
      rw [locking_after_delLockValue]
      exact final

variable {submit : SubmitRequest}

theorem refuse_obeys_locking (text : String) (idle : phase.Idle) :
    (refuse submit self text).Obeys (locking submit.userId self)
      (fun reached _ => reached.Idle) phase := by
  apply obeys_bind.mpr
  apply release_obeys_locking idle
  apply locking_obeys_quiet_bind (by trivial)
  intro _
  exact Or.inr rfl

theorem judgeSubmission_obeys_locking (powTen : ℚ → ℚ) (state : BattleState) :
    (judgeSubmission powTen submit self state).Obeys (locking submit.userId self)
      (fun reached _ => reached.Idle) (.held none) := by
  have permits := (@allowsRoom_lockFree submit.userId submit.roomId).permits
  apply obeys_bind.mpr
  apply locking_obeys_of_uses (permits.saves _ _)
  intro _
  apply locking_obeys_quiet_bind (by trivial)
  intro _
  apply locking_obeys_quiet_bind (by trivial)
  intro _
  apply obeys_bind.mpr
  apply locking_obeys_of_uses
    (uses_mono (getProblemData_quiet _) fun _ => Cmd.Quiet.lockFree)
  intro _
  split
  · apply locking_obeys_quiet_bind (by trivial)
    intro _
    split
    · exact Or.inl rfl
    apply locking_obeys_quiet_bind (by trivial)
    intro _
    apply obeys_bind.mpr
    apply locking_obeys_of_uses (permits.saves _ _)
    intro _
    apply locking_obeys_of_uses (announceResult_holds permits powTen _ _ _)
    intro _
    exact Or.inl rfl
  · apply locking_obeys_quiet_bind (by trivial)
    intro _
    apply obeys_bind.mpr
    apply locking_obeys_of_uses (permits.saves _ _)
    intro _
    apply obeys_bind.mpr
    apply release_obeys_locking (Or.inl rfl)
    exact Or.inr rfl

theorem trySubmit_obeys_locking (powTen : ℚ → ℚ) :
    (trySubmit powTen submit self).Obeys (locking submit.userId self)
      (fun reached _ => reached.Idle) .fresh := by
  apply obeys_bind.mpr
  apply acquire_obeys
  · apply obeys_bind.mpr
    apply locking_obeys_of_uses
    · exact uses_perform not_false
    intro _
    have idle : (LockPhase.held none).Idle := Or.inl rfl
    split
    · exact refuse_obeys_locking _ idle
    split
    · exact refuse_obeys_locking _ idle
    split
    · exact refuse_obeys_locking _ idle
    · exact judgeSubmission_obeys_locking powTen _
  · apply locking_obeys_quiet_bind (by trivial)
    intro _
    exact Or.inr rfl

theorem handleSubmit_obeys_locking (powTen : ℚ → ℚ) :
    (handleSubmit powTen submit self).Obeys (locking submit.userId self)
      (fun reached _ => reached.Over) .fresh := by
  apply obeys_bind.mpr
  apply (trySubmit_obeys_locking powTen).mono
  intro _ _ idle
  split
  · exact release_obeys_locking idle trivial
  · apply obeys_bind.mpr
    apply locking_obeys_of_uses (resetJudging_holds (allowsRoom_lockFree submit.roomId).permits)
    intro _
    exact release_obeys_locking idle trivial

theorem body_obeys_locking (powTen : ℚ → ℚ) (call : Call) :
    (body powTen self call).Obeys (locking userId self) (fun reached _ => reached.Over)
      .fresh := by
  by_cases own : ∃ submit, call = .submit submit ∧ submit.userId = userId
  · rcases own with ⟨submit, rfl, rfl⟩
    exact handleSubmit_obeys_locking powTen
  · apply locking_obeys_of_uses
    · apply body_uses powTen self (allowsRoom_lockFree call.roomId)
      · intro submit isSubmit cmd _
        have differs : submit.userId ≠ userId := by
          intro same
          exact own ⟨submit, isSubmit, same⟩
        cases cmd <;> simp_all [Cmd.LockFree, Cmd.Locking]
      · intro _ _ _
        exact not_false
    · intro _
      trivial

end Calls

structure OthersKept (userId : UserId) (id : ℕ) (before after : LockView) : Prop where
  lock : ∀ other, other ≠ id → before.lock = some other → after.lock = some other
  value : ∀ other, other ≠ id → before.value ≠ some other → after.value ≠ some other
  acquired : ∀ other, other ≠ id → .acquired userId other ∉ before.events →
    .acquired userId other ∉ after.events
  released : ∀ other, .released userId other ∈ before.events →
    .released userId other ∈ after.events

section Runs

variable {powTen : ℚ → ℚ} {users : UserId → Option User} {userId : UserId}
  {state next : ServerState} {action : ServerAction} {id : ℕ} {phase : LockPhase} {choice : Choice}
  {store : Store} {call : Call}

theorem LockPhase.Agrees.mono {before after : LockView}
    (agrees : phase.Agrees userId id before)
    (lock : ¬phase.Over → before.lock = some id → after.lock = some id)
    (value : before.value ≠ some id → after.value ≠ some id)
    (acquired : .acquired userId id ∉ before.events → .acquired userId id ∉ after.events)
    (released : .released userId id ∈ before.events → .released userId id ∈ after.events) :
    phase.Agrees userId id after := by
  cases phase with
  | fresh => exact ⟨acquired agrees.1, value agrees.2⟩
  | acquired => exact lock not_false agrees
  | held => exact lock not_false agrees
  | freed => exact released agrees
  | outside read => exact ⟨agrees.1.imp acquired released, value agrees.2.1, agrees.2.2⟩

theorem LockPhase.Agrees.kept {other : ℕ} {before after : LockView}
    (agrees : phase.Agrees userId other before) (kept : OthersKept userId id before after)
    (differs : other ≠ id) : phase.Agrees userId other after :=
  agrees.mono (fun _ => kept.lock other differs) (kept.value other differs)
    (kept.acquired other differs) (kept.released other)

structure LockStep (userId : UserId) (id : ℕ) (before after : LockView) (phase : LockPhase) :
    Prop where
  agrees : phase.Agrees userId id after
  kept : OthersKept userId id before after
  deletions : ∀ owner call, .deleted userId owner call ∈ after.events →
    .deleted userId owner call ∈ before.events ∨ owner = call

theorem OthersKept.refl (id : ℕ) (view : LockView) : OthersKept userId id view view where
  lock _ _ same := same
  value _ _ same := same
  acquired _ _ same := same
  released _ same := same

def LockView.release (view : LockView) (userId : UserId) (id : ℕ) : LockView :=
  { view with events := .released userId id :: view.events }

theorem othersKept_release (id : ℕ) (view : LockView) :
    OthersKept userId id view (view.release userId id) where
  lock _ _ same := same
  value _ _ same := same
  acquired _ _ absent := by simpa [LockView.release] using absent
  released _ present := List.mem_cons_of_mem _ present

theorem released_mem_release (id : ℕ) (view : LockView) :
    .released userId id ∈ (view.release userId id).events := List.mem_cons_self

theorem deleted_mem_release {owner call : ℕ} {view : LockView}
    (present : .deleted userId owner call ∈ (view.release userId id).events) :
    .deleted userId owner call ∈ view.events := by
  simpa [LockView.release] using present

theorem lockStep_setLock (agrees : LockPhase.fresh.Agrees userId id (lockView userId store)) :
    LockStep userId id (lockView userId store)
      (lockView userId (handle (.setLock userId id) choice store).2)
      (if (handle (.setLock userId id) choice store).1 then .acquired else .outside none) := by
  rcases agrees with ⟨never, value⟩
  cases lock : store.locks userId with
  | some owner =>
    simp only [handle, Store.setLock, lock]
    refine ⟨⟨Or.inl never, value, by simp⟩, OthersKept.refl id _, ?_⟩
    intro owner call present
    exact Or.inl present
  | none =>
    simp only [handle, Store.setLock, lock, if_true]
    refine ⟨by simp [LockPhase.Agrees, lockView], ⟨?_, ?_, ?_, ?_⟩, ?_⟩
    · intro other _ held
      simp [lockView, lock] at held
    · intro other _ differs
      exact differs
    · intro other differs absent
      simpa [lockView, Event.onLock, differs] using absent
    · intro _ present
      simpa [lockView, Event.onLock] using present
    · intro _ _ present
      left
      simpa [lockView, Event.onLock] using present

theorem lockStep_setLockValue
    (agrees : LockPhase.acquired.Agrees userId id (lockView userId store)) :
    LockStep userId id (lockView userId store)
      (lockView userId (handle (.setLockValue userId id) choice store).2) (.held none) := by
  refine ⟨agrees, ⟨?_, ?_, ?_, ?_⟩, ?_⟩
  · intro other _ held
    exact held
  · intro other differs _ same
    simp only [handle, lockView, update_self, Option.some.injEq] at same
    exact differs same.symm
  · intro other _ absent
    exact absent
  · intro _ present
    exact present
  · intro _ _ present
    exact Or.inl present

theorem lockStep_getLockValue
    (releases : phase.Releases) (agrees : phase.Agrees userId id (lockView userId store)) :
    LockStep userId id (lockView userId store)
      (lockView userId (handle (.getLockValue userId id) choice store).2)
      (phase.afterRead (handle (.getLockValue userId id) choice store).1) := by
  cases value : store.lockValues userId with
  | none =>
    have view_eq : lockView userId (handle (.getLockValue userId id) choice store).2 =
        (lockView userId store).release userId id := by
      simp [handle, Store.getLockValue, value, lockView, LockView.release, Event.onLock]
    have after_eq : phase.afterRead (handle (.getLockValue userId id) choice store).1 =
        .outside none := by
      simp only [handle, Store.getLockValue, value]
      cases phase <;> rfl
    rw [view_eq, after_eq]
    refine ⟨⟨Or.inr (released_mem_release id _), ?_, by simp⟩, othersKept_release id _, ?_⟩
    · simp [LockView.release, lockView, value]
    · intro owner call present
      exact Or.inl (deleted_mem_release present)
  | some =>
    simp only [handle, Store.getLockValue, value]
    refine ⟨?_, OthersKept.refl id _, fun owner call present => Or.inl present⟩
    cases phase with
    | fresh => exact releases.elim
    | acquired => exact releases.elim
    | freed => exact releases.elim
    | held => exact agrees
    | outside =>
      rcases agrees with ⟨finished, foreign, _⟩
      refine ⟨finished, foreign, ?_⟩
      simpa [lockView, value] using foreign

theorem lockStep_evalUnlock {token : ℕ}
    (reads : phase = .held (some token) ∨ phase = .outside (some token))
    (agrees : phase.Agrees userId id (lockView userId store))
    (own : store.lockValues userId = some token → token = id) :
    LockStep userId id (lockView userId store)
      (lockView userId (handle (.evalUnlock userId token id) choice store).2)
      phase.afterUnlock := by
  by_cases matching : store.lockValues userId = some token
  · have same := own matching
    subst token
    rcases reads with rfl | rfl
    · have owner : store.locks userId = some id := agrees
      simp only [handle, Store.evalUnlock, matching, if_true, owner]
      refine ⟨?_, ⟨?_, ?_, ?_, ?_⟩, ?_⟩
      · simp [LockPhase.afterUnlock, LockPhase.Agrees, lockView, Event.onLock]
      · intro other differs held
        simp only [lockView, owner, Option.some.injEq] at held
        exact absurd held.symm differs
      · intro other _ foreign
        exact foreign
      · intro other _ absent
        simpa [lockView, Event.onLock] using absent
      · intro _ present
        simpa [lockView, Event.onLock] using Or.inr present
      · intro _ _ present
        simp only [lockView, Event.onLock, decide_true, List.filter_cons_of_pos, List.mem_cons,
          reduceCtorEq, Event.deleted.injEq, true_and, false_or] at present
        rcases present with ⟨rfl, rfl⟩ | old
        · exact Or.inr rfl
        · exact Or.inl old
    · exact absurd rfl agrees.2.2
  · have view_eq : lockView userId (handle (.evalUnlock userId token id) choice store).2 =
        (lockView userId store).release userId id := by
      simp [handle, Store.evalUnlock, matching, lockView, LockView.release, Event.onLock]
    rw [view_eq]
    refine ⟨?_, othersKept_release id _, fun _ _ present => Or.inl (deleted_mem_release present)⟩
    rcases reads with rfl | rfl
    · exact released_mem_release id _
    · exact ⟨Or.inr (released_mem_release id _), agrees.2.1, by simp⟩

theorem lockStep_delLockValue (finished : phase = .freed ∨ phase = .outside none)
    (agrees : phase.Agrees userId id (lockView userId store)) :
    LockStep userId id (lockView userId store)
      (lockView userId (handle (.delLockValue userId) choice store).2) (.outside none) := by
  refine ⟨⟨?_, ?_, by simp⟩, ⟨?_, ?_, ?_, ?_⟩, fun _ _ present => Or.inl present⟩
  · rcases finished with rfl | rfl
    · exact Or.inr agrees
    · exact agrees.1
  · simp [handle, lockView]
  · intro other _ held
    exact held
  · intro other _ _
    simp [handle, lockView]
  · intro other _ absent
    exact absent
  · intro _ present
    exact present

variable {cmd : Cmd}

theorem lockStep_of_allowed (allowed : (locking userId id).allows phase cmd)
    (agrees : phase.Agrees userId id (lockView userId store))
    (own : ∀ token, cmd = .evalUnlock userId token id →
      store.lockValues userId = some token → token = id) :
    LockStep userId id (lockView userId store) (lockView userId (handle cmd choice store).2)
      ((locking userId id).after phase cmd (handle cmd choice store).1) := by
  by_cases locks : cmd.Locking userId
  · cases cmd with
    | setLock user =>
      simp only [Cmd.Locking] at locks
      subst user
      rcases allowed rfl with ⟨rfl, rfl⟩
      rw [locking_after_setLock]
      exact lockStep_setLock agrees
    | setLockValue user =>
      simp only [Cmd.Locking] at locks
      subst user
      rcases allowed rfl with ⟨rfl, rfl⟩
      rw [locking_after_setLockValue]
      exact lockStep_setLockValue agrees
    | getLockValue user =>
      simp only [Cmd.Locking] at locks
      subst user
      rcases allowed rfl with ⟨releases, rfl⟩
      rw [locking_after_getLockValue]
      exact lockStep_getLockValue releases agrees
    | evalUnlock user token =>
      simp only [Cmd.Locking] at locks
      subst user
      rcases allowed rfl with ⟨reads, rfl⟩
      rw [locking_after_evalUnlock]
      exact lockStep_evalUnlock reads agrees (own token rfl)
    | delLockValue user =>
      simp only [Cmd.Locking] at locks
      subst user
      rw [locking_after_delLockValue]
      exact lockStep_delLockValue (allowed rfl) agrees
    | _ => exact locks.elim
  · rw [lockView_of_lockFree locks, Cmd.LockFree.after_eq locks]
    exact ⟨agrees, OthersKept.refl id _, fun _ _ present => Or.inl present⟩

theorem lockView_accept {after : Store} (accepted : accept call store = some after) :
    lockView userId after = lockView userId store := by
  cases call with
  | createMatch =>
    simp only [accept] at accepted
    split at accepted
    · cases accepted
    · simp only [Option.some.injEq] at accepted
      subst after
      simp [lockView, Store.save, Event.onLock]
  | timerTick =>
    simp only [accept] at accepted
    split at accepted
    · split at accepted
      · simp only [Option.some.injEq] at accepted
        subst after
        rfl
      · cases accepted
    · cases accepted
  | _ =>
    simp only [accept, Option.some.injEq] at accepted
    subst after
    rfl

theorem locking_happen {event : Environment} (releases : ReleasesOwn userId state (.happen event))
    (happened : happen event state.store = some store) :
    (lockView userId store).events = (lockView userId state.store).events ∧
      ∀ id (call : Call) phase, Stands (fun id _ => locking userId id)
        (fun reached _ => reached.Over) .fresh state id call phase →
        phase.Agrees userId id (lockView userId state.store) →
          phase.Agrees userId id (lockView userId store) := by
  cases event with
  | battleDeleted =>
    simp only [happen] at happened
    split at happened
    · cases happened
    · cases happened
      exact ⟨rfl, fun _ _ _ _ agrees => agrees⟩
  | battleExpired =>
    cases happened
    exact ⟨rfl, fun _ _ _ _ agrees => agrees⟩
  | lockExpired user =>
    cases happened
    refine ⟨rfl, fun id _ phase stands agrees => ?_⟩
    refine agrees.mono (fun notOver held => ?_) (fun foreign => foreign) (fun never => never)
      fun released => released
    by_cases same : user = userId
    · subst user
      cases found : state.processes id with
      | none => exact absurd (stands.unstarted found ▸ trivial) notOver
      | some process =>
        have obeys := stands.running process found
        rw [releases.expiresAfter rfl id process held found] at obeys
        exact absurd obeys notOver
    · simpa [lockView, update_of_ne (Ne.symm same)] using held
  | lockValueExpired user =>
    cases happened
    refine ⟨rfl, fun id _ phase _ agrees => ?_⟩
    refine agrees.mono (fun _ held => held) (fun foreign => ?_) (fun never => never)
      fun released => released
    by_cases same : user = userId
    · subst user
      simp [lockView]
    · simpa [lockView, update_of_ne (Ne.symm same)] using foreign

def OwnDeletions (userId : UserId) (view : LockView) : Prop :=
  ∀ owner call, .deleted userId owner call ∈ view.events → owner = call

theorem reaches_locking
    (reached : (server powTen).Reaches (ReleasesOwn userId) (freshServer users) state) :
    OwnDeletions userId (lockView userId state.store) ∧
      (∀ id, Call → state.processes id = none →
        LockPhase.fresh.Agrees userId id (lockView userId state.store)) ∧
      ∀ id process, state.processes id = some process →
        ∃ phase : LockPhase, phase.Agrees userId id (lockView userId state.store) ∧
          process.program.Obeys (locking userId id) (fun reached _ => reached.Over) phase := by
  refine reached.related (fun store => OwnDeletions userId (lockView userId store))
    (fun store id _ phase => phase.Agrees userId id (lockView userId store)) (fun _ => rfl)
    (fun _ call => body_obeys_locking powTen call) ?_ ?_ ?_ ?_ ?_
  · intro _ _ _ _ _ accepted own
    rw [lockView_accept accepted]
    exact ⟨own, fun _ _ _ agrees => agrees⟩
  · intro _ _ _ releases happened own
    rcases locking_happen releases happened with ⟨events, kept⟩
    refine ⟨?_, kept⟩
    rw [OwnDeletions, events]
    exact own
  · intro state id _ choice cmd phase releases issued allowed own agrees
    have step : LockStep userId id (lockView userId state.store)
        (lockView userId (handle cmd choice state.store).2)
        ((locking userId id).after phase cmd (handle cmd choice state.store).1) := by
      apply lockStep_of_allowed allowed agrees
      rintro token rfl
      exact releases.ownValue id choice token rfl issued
    refine ⟨trivial, ?_, step.agrees, ?_⟩
    · intro owner caller deleted
      rcases step.deletions owner caller deleted with old | same
      · exact own owner caller old
      · exact same
    · intro other _ _ differs otherAgrees
      exact otherAgrees.kept step.kept differs
  · intro _ _ deleted
    cases deleted
  · intro id _
    simp [LockPhase.Agrees, lockView, freshServer]

theorem LockPhase.Agrees.owns (agrees : phase.Agrees userId id (lockView userId store))
    (held : LockHeld userId store.log id) : store.locks userId = some id := by
  rcases held with ⟨acquired, unreleased⟩
  have acquiredEvent : .acquired userId id ∈ (lockView userId store).events :=
    mem_lockView_events.mpr ⟨acquired, by simp [Event.onLock]⟩
  have noRelease : .released userId id ∉ (lockView userId store).events := by
    intro released
    exact unreleased (mem_lockView_events.mp released).1
  cases phase with
  | fresh => exact absurd acquiredEvent agrees.1
  | acquired => exact agrees
  | held => exact agrees
  | freed => exact absurd agrees noRelease
  | outside =>
    rcases agrees.1 with never | released
    · exact absurd acquiredEvent never
    · exact absurd released noRelease

/--
In every run in which unlock scripts match no foreign value and the lock does not
expire under its owner, at most one call of the user is between acquiring the lock and
releasing it, and the lock is deleted by the call that acquired it.
-/
theorem lock_correct
    (reached : (server powTen).Reaches (ReleasesOwn userId) (freshServer users) state) :
    LockCorrect userId state.store.log := by
  rcases reaches_locking reached with ⟨deletions, unstarted, running⟩
  have owns (id : ℕ) (held : LockHeld userId state.store.log id) :
      state.store.locks userId = some id := by
    cases found : state.processes id with
    | none => exact (unstarted id (.ready "") found).owns held
    | some process =>
      rcases running id process found with ⟨_, agrees, _⟩
      exact agrees.owns held
  refine ⟨?_, ?_⟩
  · intro first second firstHeld secondHeld
    have owners := (owns first firstHeld).symm.trans (owns second secondHeld)
    exact Option.some.inj owners
  · intro _ _ deleted
    apply deletions
    exact mem_lockView_events.mpr ⟨deleted, by simp [Event.onLock]⟩

end Runs

def lockedSubmission : Call := .submit ⟨"", 71, "r", "a"⟩

/--
The second submission of a user is rejected and releases the lock of the first one, so
the third acquires it as well.
-/
theorem rejected_submission_unlocks :
    ∃ state, (server fun _ => 1).Reaches anyStep (freshServer fun _ => none) state ∧
      ¬LockCorrect "a" state.store.log := by
  have run : ∃ state, (server fun _ => 1).Reaches anyStep (freshServer fun _ => none) state ∧
      LockHeld "a" state.store.log 1 ∧ LockHeld "a" state.store.log 3 := by
    apply exists_reaches [1, 2, 3] (fun _ _ => true)
      (.start 1 lockedSubmission :: List.replicate 2 (.advance 1 default) ++
        .start 2 lockedSubmission :: List.replicate 4 (.advance 2 default) ++
        [.start 3 lockedSubmission, .advance 3 default])
    · intro _ _ _ _
      trivial
    · intro _ _
      rfl
    · decide
  rcases run with ⟨state, reached, first, third⟩
  refine ⟨state, reached, ?_⟩
  intro correct
  cases correct.exclusive 1 3 first third

def unlocksOwn (userId : UserId) (state : ServerState) (action : ServerAction) : Bool :=
  match action, state.issued action with
  | .advance id _, some (.evalUnlock _ token _) =>
    state.store.lockValues userId ≠ some token ∨ token = id
  | .happen _, _ => false
  | _, _ => true

theorem releasesOwn_of_unlocksOwn {ids : List ℕ} (state : ServerState)
    (action : ServerAction) (_only : state.Only ids)
    (checked : unlocksOwn userId state action = true) : ReleasesOwn userId state action := by
  refine ⟨?_, ?_⟩
  · intro _ _ _ action_eq issued value
    subst action
    simpa [unlocksOwn, issued, value] using checked
  · intro _
    subst action
    simp [unlocksOwn] at checked

theorem one_submission_locks_correctly :
    ∃ state, (server fun _ => 1).Reaches (ReleasesOwn "a") (freshServer fun _ => none) state ∧
      .deleted "a" 1 1 ∈ state.store.log ∧ LockCorrect "a" state.store.log := by
  apply exists_reaches_and [1] (unlocksOwn "a")
    (.start 1 lockedSubmission :: List.replicate 8 (.advance 1 default))
  · exact releasesOwn_of_unlocksOwn
  · intro _ _
    rfl
  · decide
  · intro _ reached
    exact lock_correct reached

end CodeClash.Battle
