import CodeClash.Async.System

/-!
# Ownership

At most one call may work on a resource at a time. The phase of a call is the resource it owns
together with the stage of its work, or nothing, and how the store looks at a resource depends on
the stage of its owner.
-/

namespace CodeClash.Async

open Function

section Stages

variable {Resource Stage Store : Type} [DecidableEq Resource]

def stageOf (resource : Resource) : Option (Resource × Stage) → Option Stage
  | none => none
  | some (owned, stage) => if owned = resource then some stage else none

@[simp]
theorem stageOf_self (resource : Resource) (stage : Stage) :
    stageOf resource (some (resource, stage)) = some stage := if_pos rfl

variable {resource owned : Resource}

theorem stageOf_of_ne (other : owned ≠ resource) (stage : Stage) :
    stageOf resource (some (owned, stage)) = none := if_neg other

@[simp]
theorem stageOf_map_self (resource : Resource) (stage : Option Stage) :
    stageOf resource (stage.map fun stage => (resource, stage)) = stage := by
  cases stage with
  | none => rfl
  | some stage => exact stageOf_self resource stage

theorem stageOf_map_of_ne (other : owned ≠ resource)
    (stage : Option Stage) : stageOf resource (stage.map fun stage => (owned, stage)) = none := by
  cases stage with
  | none => rfl
  | some stage => exact stageOf_of_ne other stage

/-- The caller's own stage is right before and after a command, and what another call owns is
neither changed nor taken. -/
structure Respects (Fits : Store → Resource → Option Stage → Prop) (before after : Store)
    (phase next : Option (Resource × Stage)) : Prop where
  own : ∀ resource, Fits before resource (stageOf resource phase) →
    Fits after resource (stageOf resource next)
  others : ∀ resource stage, stageOf resource phase = none → Fits before resource (some stage) →
    stageOf resource next = none ∧ Fits after resource (some stage)

theorem Respects.of_kept {Fits : Store → Resource → Option Stage → Prop} {before after : Store}
    (kept : ∀ resource owner, Fits before resource owner → Fits after resource owner)
    (phase : Option (Resource × Stage)) : Respects Fits before after phase phase where
  own resource := kept resource _
  others resource _ unowned fits := ⟨unowned, kept resource _ fits⟩

end Stages

namespace Server

variable {sig : Signature} {Store Call Choice Event Resource Stage : Type} [DecidableEq Resource]
  {server : Server sig Store Call Choice Event}
  {guard : State sig Store Call → Action Call Choice Event → Prop}
  {initial state : State sig Store Call}
  {protocol : Protocol sig (Option (Resource × Stage))}
  {Fits : Store → Resource → Option Stage → Prop}

/-- The calls are in these phases, no two of them own the same resource, and all resources look
as they should. -/
structure Owned (protocol : Protocol sig (Option (Resource × Stage)))
    (Fits : Store → Resource → Option Stage → Prop) (phases : ℕ → Option (Resource × Stage))
    (state : State sig Store Call) : Prop where
  obeys : ∀ id process, state.processes id = some process →
    process.program.Obeys protocol (fun _ _ => True) (phases id)
  unstarted : ∀ id, state.processes id = none → phases id = none
  exclusive : ∀ id other resource, stageOf resource (phases id) ≠ none →
    stageOf resource (phases other) ≠ none → id = other
  owner : ∀ id resource, stageOf resource (phases id) ≠ none →
    Fits state.store resource (stageOf resource (phases id))
  unowned : ∀ resource, (∀ id, stageOf resource (phases id) = none) →
    Fits state.store resource none

variable {phases : ℕ → Option (Resource × Stage)}

theorem Owned.fits (owned : Owned protocol Fits phases state) (resource : Resource) :
    ∃ owner, Fits state.store resource owner := by
  by_cases free : ∀ id, stageOf resource (phases id) = none
  · exact ⟨none, owned.unowned resource free⟩
  · rcases not_forall.mp free with ⟨id, owns⟩
    exact ⟨_, owned.owner id resource owns⟩

theorem Owned.fits_stage (owned : Owned protocol Fits phases state) (id : ℕ) (resource : Resource)
    (free : ∀ other, other ≠ id → stageOf resource (phases other) = none) :
    Fits state.store resource (stageOf resource (phases id)) := by
  by_cases owns : stageOf resource (phases id) = none
  · rw [owns]
    refine owned.unowned resource fun other => ?_
    by_cases same : other = id
    · rw [same, owns]
    · exact free other same
  · exact owned.owner id resource owns

variable {id : ℕ} {call : Call}

theorem Owned.start {store : Store}
    (owned : Owned protocol Fits phases state) (unused : state.processes id = none)
    (body : (server.body id call).Obeys protocol (fun _ _ => True) none)
    (kept : ∀ resource owner, Fits state.store resource owner → Fits store resource owner) :
    Owned protocol Fits phases
      ⟨store, update state.processes id (some ⟨call, server.body id call⟩)⟩ where
  obeys other process found := by
    refine @forall_update _ _ _ _ (fun id process =>
      process.program.Obeys protocol (fun _ _ => True) (phases id)) ?_ ?_ other process found
    · rw [owned.unstarted id unused]
      exact body
    · intro other process _ found
      exact owned.obeys other process found
  unstarted other absent := owned.unstarted other (eq_none_of_update absent).2
  exclusive := owned.exclusive
  owner other resource owns := kept resource _ (owned.owner other resource owns)
  unowned resource free := kept resource _ (owned.unowned resource free)

theorem Owned.others {other : ℕ} {after : Store} {next : Option (Resource × Stage)}
    {resource : Resource} (owned : Owned protocol Fits phases state)
    (respects : Respects Fits state.store after (phases id) next) (differs : other ≠ id)
    (owns : stageOf resource (phases other) ≠ none) :
    stageOf resource next = none ∧ Fits after resource (stageOf resource (phases other)) := by
  have unowned : stageOf resource (phases id) = none := by
    by_contra ownsToo
    exact differs (owned.exclusive other id resource owns ownsToo)
  have fits := owned.owner other resource owns
  rcases Option.ne_none_iff_exists'.mp owns with ⟨stage, found⟩
  rw [found] at fits ⊢
  exact respects.others resource stage unowned fits

theorem Owned.advance {cmd : sig.Cmd} {rest : sig.Reply cmd → Program sig Unit} {choice : Choice}
    (owned : Owned protocol Fits phases state)
    (waiting : state.processes id = some ⟨call, .issue cmd rest⟩)
    (expected : protocol.expects (phases id) cmd (server.handle cmd choice state.store).1)
    (respects : Respects Fits state.store (server.handle cmd choice state.store).2 (phases id)
      (protocol.after (phases id) cmd (server.handle cmd choice state.store).1)) :
    Owned protocol Fits (update phases id
        (protocol.after (phases id) cmd (server.handle cmd choice state.store).1))
      ⟨(server.handle cmd choice state.store).2, update state.processes id
        (some ⟨call, rest (server.handle cmd choice state.store).1⟩)⟩ where
  obeys other process found := by
    refine @forall_update _ _ _ _ (fun other process =>
      process.program.Obeys protocol (fun _ _ => True) (update phases id
        (protocol.after (phases id) cmd (server.handle cmd choice state.store).1) other))
      ?_ ?_ other process found
    · rw [update_self]
      exact (owned.obeys id _ waiting).2 _ expected
    · intro other process differs found
      rw [update_of_ne differs]
      exact owned.obeys other process found
  unstarted other absent := by
    rcases eq_none_of_update absent with ⟨differs, absentBefore⟩
    rw [update_of_ne differs]
    exact owned.unstarted other absentBefore
  exclusive first second resource ownsFirst ownsSecond := by
    by_contra differ
    by_cases isFirst : first = id
    · subst first
      rw [update_self] at ownsFirst
      rw [update_of_ne (Ne.symm differ)] at ownsSecond
      exact ownsFirst (owned.others respects (Ne.symm differ) ownsSecond).1
    · rw [update_of_ne isFirst] at ownsFirst
      by_cases isSecond : second = id
      · subst second
        rw [update_self] at ownsSecond
        exact ownsSecond (owned.others respects differ ownsFirst).1
      · rw [update_of_ne isSecond] at ownsSecond
        exact differ (owned.exclusive first second resource ownsFirst ownsSecond)
  owner other resource owns := by
    by_cases same : other = id
    · rw [same, update_self] at owns ⊢
      refine respects.own resource (owned.fits_stage id resource fun third differs => ?_)
      by_contra ownsToo
      exact owns (owned.others respects differs ownsToo).1
    · rw [update_of_ne same] at owns ⊢
      exact (owned.others respects same owns).2
  unowned resource free := by
    have freed := free id
    rw [update_self] at freed
    rw [← freed]
    refine respects.own resource (owned.fits_stage id resource fun other differs => ?_)
    rw [← free other, update_of_ne differs]

/-- In every run whose commands respect the resources, every resource looks as it should. -/
theorem Reaches.fits (reached : server.Reaches guard initial state)
    (unstarted : ∀ id, initial.processes id = none)
    (bodies : ∀ state id call store, guard state (.start id call) →
      server.accept call state.store = some store →
      (∀ resource, ∃ owner, Fits state.store resource owner) →
        (server.body id call).Obeys protocol (fun _ _ => True) none)
    (accepts : ∀ call store next, server.accept call store = some next →
      ∀ resource owner, Fits store resource owner → Fits next resource owner)
    (happens : ∀ event store next, server.happen event store = some next →
      ∀ resource owner, Fits store resource owner → Fits next resource owner)
    (expected : ∀ phase cmd choice store, (∀ resource, ∃ owner, Fits store resource owner) →
      protocol.expects phase cmd (server.handle cmd choice store).1)
    (respected : ∀ state id choice cmd phase, guard state (.advance id choice) →
      state.issued (.advance id choice : Action Call Choice Event) = some cmd →
      protocol.allows phase cmd →
        Respects Fits state.store (server.handle cmd choice state.store).2 phase
          (protocol.after phase cmd (server.handle cmd choice state.store).1))
    (fits : ∀ resource, Fits initial.store resource none) (resource : Resource) :
    ∃ owner, Fits state.store resource owner := by
  have owned : ∃ phases, Owned protocol Fits phases state := by
    apply reached.invariant
    · refine ⟨fun _ => none, ?_, fun _ _ => rfl, ?_, ?_, fun resource _ => fits resource⟩
      · intro id _ found
        rw [unstarted] at found
        cases found
      · intro id _ resource owns
        exact absurd rfl owns
      · intro id resource owns
        exact absurd rfl owns
    · intro state _ _ _ invariant met cases
      rcases invariant with ⟨phases, owned⟩
      cases cases with
      | start id call store unused accepted =>
        exact ⟨phases, owned.start unused (bodies state id call store met accepted owned.fits)
          (accepts call state.store store accepted)⟩
      | advance id choice _ cmd _ waiting =>
        have allowed := (owned.obeys id _ waiting).1
        exact ⟨_, owned.advance waiting (expected _ _ _ _ owned.fits)
          (respected state id choice cmd _ met (State.issued_advance waiting choice) allowed)⟩
      | happen event store happened =>
        have kept := happens event state.store store happened
        exact ⟨phases, owned.obeys, owned.unstarted, owned.exclusive,
          fun id resource owns => kept resource _ (owned.owner id resource owns),
          fun resource free => kept resource _ (owned.unowned resource free)⟩
  rcases owned with ⟨_, owned⟩
  exact owned.fits resource

end Server

end CodeClash.Async
