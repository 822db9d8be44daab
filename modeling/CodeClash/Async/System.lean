import CodeClash.Async.Protocol

/-!
# Programs running between each other's steps

A server has one store and any number of calls, each running its own program. The state changes by
starting a call, by answering the command a call is waiting on, or by an event of the environment.
Every command is atomic and any call may go next. Finished calls stay in the table, and a number is
never used twice.

Reachability is taken under a guard on steps.
-/

namespace CodeClash.Async

open Function

structure Process (sig : Signature) (Call : Type) where
  call : Call
  program : Program sig Unit

structure State (sig : Signature) (Store Call : Type) where
  store : Store
  processes : ℕ → Option (Process sig Call)

inductive Action (Call Choice Event : Type) where
  | start (id : ℕ) (call : Call)
  | advance (id : ℕ) (choice : Choice)
  | happen (event : Event)

def State.issued {sig : Signature} {Store Call Choice Event : Type}
    (state : State sig Store Call) : Action Call Choice Event → Option sig.Cmd
  | .advance id _ => (state.processes id).bind fun process => process.program.head?
  | _ => none

theorem State.issued_advance {sig : Signature} {Store Call Choice Event : Type}
    {state : State sig Store Call} {id : ℕ} {call : Call} {cmd : sig.Cmd}
    {rest : sig.Reply cmd → Program sig Unit}
    (waiting : state.processes id = some ⟨call, .issue cmd rest⟩) (choice : Choice) :
    state.issued (.advance id choice : Action Call Choice Event) = some cmd := by
  simp [issued, waiting, Program.head?]

def State.Only {sig : Signature} {Store Call : Type} (ids : List ℕ)
    (state : State sig Store Call) : Prop :=
  ∀ id, id ∉ ids → state.processes id = none

def Action.within {Call Choice Event : Type} (ids : List ℕ) : Action Call Choice Event → Bool
  | .start id _ | .advance id _ => id ∈ ids
  | .happen _ => true

/-- The step answers a call while all other listed calls are done. -/
def State.sequential {sig : Signature} {Store Call Choice Event : Type} (ids : List ℕ)
    (state : State sig Store Call) : Action Call Choice Event → Bool
  | .advance id _ => ids.all fun other =>
    other = id ∨ ((state.processes other).bind fun process => process.program.head?).isNone
  | _ => true

/-- How a server answers commands, accepts calls and is changed by its environment. -/
structure Server (sig : Signature) (Store Call Choice Event : Type) where
  handle : (cmd : sig.Cmd) → Choice → Store → sig.Reply cmd × Store
  accept : Call → Store → Option Store
  body : ℕ → Call → Program sig Unit
  happen : Event → Store → Option Store

namespace Server

variable {sig : Signature} {Store Call Choice Event : Type}

def step (server : Server sig Store Call Choice Event) (state : State sig Store Call) :
    Action Call Choice Event → Option (State sig Store Call)
  | .start id call =>
    match state.processes id, server.accept call state.store with
    | none, some store =>
      some ⟨store, update state.processes id (some ⟨call, server.body id call⟩)⟩
    | _, _ => none
  | .advance id choice =>
    match state.processes id with
    | some ⟨call, .issue cmd next⟩ =>
      let answer := server.handle cmd choice state.store
      some ⟨answer.2, update state.processes id (some ⟨call, next answer.1⟩)⟩
    | _ => none
  | .happen event =>
    match server.happen event state.store with
    | some store => some { state with store := store }
    | none => none

/-- Take a list of actions of the given calls one after the other, as long as each
is possible and passes the check. -/
def steps (server : Server sig Store Call Choice Event) (ids : List ℕ)
    (check : State sig Store Call → Action Call Choice Event → Bool)
    (state : State sig Store Call) :
    List (Action Call Choice Event) → Option (State sig Store Call)
  | [] => some state
  | action :: actions =>
    if action.within ids && check state action then
      match server.step state action with
      | some next => server.steps ids check next actions
      | none => none
    else none

/-- States reached from `initial` by steps that all meet `guard`. -/
inductive Reaches (server : Server sig Store Call Choice Event)
    (guard : State sig Store Call → Action Call Choice Event → Prop)
    (initial : State sig Store Call) : State sig Store Call → Prop where
  | refl : Reaches server guard initial initial
  | step {state next : State sig Store Call} {action : Action Call Choice Event}
      (reached : Reaches server guard initial state) (met : guard state action)
      (taken : server.step state action = some next) : Reaches server guard initial next

def anyStep (_state : State sig Store Call) (_action : Action Call Choice Event) : Prop := True

variable {server : Server sig Store Call Choice Event}
  {guard : State sig Store Call → Action Call Choice Event → Prop}
  {initial state next : State sig Store Call} {action : Action Call Choice Event}

inductive StepCases (server : Server sig Store Call Choice Event) (state : State sig Store Call) :
    Action Call Choice Event → State sig Store Call → Prop where
  | start (id : ℕ) (call : Call) (store : Store) (unused : state.processes id = none)
      (accepted : server.accept call state.store = some store) :
      StepCases server state (.start id call)
        ⟨store, update state.processes id (some ⟨call, server.body id call⟩)⟩
  | advance (id : ℕ) (choice : Choice) (call : Call) (cmd : sig.Cmd)
      (rest : sig.Reply cmd → Program sig Unit)
      (waiting : state.processes id = some ⟨call, .issue cmd rest⟩) :
      StepCases server state (.advance id choice)
        ⟨(server.handle cmd choice state.store).2, update state.processes id
          (some ⟨call, rest (server.handle cmd choice state.store).1⟩)⟩
  | happen (event : Event) (store : Store)
      (happened : server.happen event state.store = some store) :
      StepCases server state (.happen event) ⟨store, state.processes⟩

theorem stepCases (taken : server.step state action = some next) :
    server.StepCases state action next := by
  cases action with
  | start id call =>
    cases unused : state.processes id with
    | some => simp [step, unused] at taken
    | none =>
      cases accepted : server.accept call state.store with
      | none => simp [step, unused, accepted] at taken
      | some store =>
        simp only [step, unused, accepted, Option.some.injEq] at taken
        subst next
        exact .start id call store unused accepted
  | advance id choice =>
    cases waiting : state.processes id with
    | none => simp [step, waiting] at taken
    | some process =>
      rcases process with ⟨call, program⟩
      cases program with
      | done => simp [step, waiting] at taken
      | issue cmd rest =>
        simp only [step, waiting, Option.some.injEq] at taken
        subst next
        exact .advance id choice call cmd rest waiting
  | happen event =>
    cases happened : server.happen event state.store with
    | none => simp [step, happened] at taken
    | some store =>
      simp only [step, happened, Option.some.injEq] at taken
      subst next
      exact .happen event store happened

theorem StepCases.only {ids : List ℕ} (cases : server.StepCases state action next)
    (within : action.within ids = true) (only : state.Only ids) : next.Only ids := by
  intro id unlisted
  have differs (started : ℕ) (listed : started ∈ ids) : id ≠ started := by
    intro _
    subst id
    exact unlisted listed
  cases cases with
  | start started =>
    have other := differs started (by simpa [Action.within] using within)
    simp [update_of_ne other, only id unlisted]
  | advance started =>
    have other := differs started (by simpa [Action.within] using within)
    simp [update_of_ne other, only id unlisted]
  | happen => exact only id unlisted

theorem sequential_done {ids : List ℕ} {id other : ℕ} {choice : Choice}
    {process : Process sig Call} (only : state.Only ids)
    (sequential : state.sequential ids (.advance id choice : Action Call Choice Event) = true)
    (differs : other ≠ id) (found : state.processes other = some process) :
    process.program = .done () := by
  have listed : other ∈ ids := by
    by_contra unlisted
    rw [only other unlisted] at found
    cases found
  simp only [State.sequential, List.all_eq_true] at sequential
  have finished := sequential other listed
  rcases process with ⟨_, program⟩
  cases program with
  | done => rfl
  | issue => simp [found, differs, Program.head?] at finished

theorem steps_reaches {ids : List ℕ}
    {check : State sig Store Call → Action Call Choice Event → Bool}
    {actions : List (Action Call Choice Event)}
    (sound : ∀ state action, state.Only ids → check state action = true → guard state action)
    (reached : server.Reaches guard initial state) (only : state.Only ids)
    (taken : server.steps ids check state actions = some next) :
    server.Reaches guard initial next ∧ next.Only ids := by
  induction actions generalizing state with
  | nil =>
    simp only [steps, Option.some.injEq] at taken
    subst next
    exact ⟨reached, only⟩
  | cons action _ ih =>
    simp only [steps] at taken
    split at taken
    · rename_i checked
      rcases Bool.and_eq_true_iff.mp checked with ⟨within, passed⟩
      cases possible : server.step state action with
      | none => simp [possible] at taken
      | some =>
        simp only [possible] at taken
        exact ih (reached.step (sound state action only passed) possible)
          ((stepCases possible).only within only) taken
    · cases taken

def finished (ids : List ℕ) (state : State sig Store Call) : Bool :=
  ids.all fun id => ((state.processes id).bind fun process => process.program.head?).isNone

theorem finished_done {ids : List ℕ} (only : state.Only ids) (done : finished ids state = true) :
    ∀ id process, state.processes id = some process → process.program = .done () := by
  intro id process found
  have listed : id ∈ ids := by
    by_contra unlisted
    rw [only id unlisted] at found
    cases found
  have headless := List.all_eq_true.mp done id listed
  rcases process with ⟨_, program⟩
  cases program with
  | done => rfl
  | issue => simp [found, Program.head?] at headless

section Computed

variable (ids : List ℕ) (check : State sig Store Call → Action Call Choice Event → Bool)
  (actions : List (Action Call Choice Event)) {Holds : State sig Store Call → Prop}
  [DecidablePred Holds]
  (sound : ∀ state action, state.Only ids → check state action = true → guard state action)
  (only : initial.Only ids)

include sound only

theorem exists_reaches_only
    (computed : (server.steps ids check initial actions).any (fun state => Holds state) = true) :
    ∃ state, server.Reaches guard initial state ∧ state.Only ids ∧ Holds state := by
  rcases Option.any_eq_true_iff_get _ _ |>.mp computed with ⟨taken, holds⟩
  rcases steps_reaches sound .refl only (Option.some_get taken).symm with ⟨reached, onlyLast⟩
  exact ⟨_, reached, onlyLast, of_decide_eq_true holds⟩

/-- A run that can be computed, as evidence that some reachable state has a property. -/
theorem exists_reaches
    (computed : (server.steps ids check initial actions).any (fun state => Holds state) = true) :
    ∃ state, server.Reaches guard initial state ∧ Holds state := by
  rcases exists_reaches_only ids check actions sound only computed with ⟨state, reached, _, holds⟩
  exact ⟨state, reached, holds⟩

/-- A run that can be computed, with what is known of all runs. -/
theorem exists_reaches_and {Known : State sig Store Call → Prop}
    (computed : (server.steps ids check initial actions).any (fun state => Holds state) = true)
    (known : ∀ state, server.Reaches guard initial state → Known state) :
    ∃ state, server.Reaches guard initial state ∧ Holds state ∧ Known state := by
  rcases exists_reaches ids check actions sound only computed with ⟨state, reached, holds⟩
  exact ⟨state, reached, holds, known state reached⟩

theorem exists_reaches_done
    (computed : (server.steps ids check initial actions).any
      (fun state => finished ids state && Holds state) = true) :
    ∃ state, server.Reaches guard initial state ∧
      (∀ id process, state.processes id = some process → process.program = .done ()) ∧
        Holds state := by
  rcases @exists_reaches_only _ _ _ _ _ server guard initial ids check actions
    (fun state => finished ids state = true ∧ Holds state) _ sound only (by simpa using computed)
    with ⟨state, reached, onlyLast, done, holds⟩
  exact ⟨state, reached, finished_done onlyLast done, holds⟩

theorem exists_reaches_twice (more : List (Action Call Choice Event))
    {Later : State sig Store Call → Prop} [DecidablePred Later]
    (computed : (server.steps ids check initial actions).any (fun state => Holds state &&
      (server.steps ids check state more).any (fun later => Later later)) = true) :
    ∃ state later, server.Reaches guard initial state ∧ server.Reaches guard state later ∧
      Holds state ∧ Later later := by
  rcases @exists_reaches_only _ _ _ _ _ server guard initial ids check actions
    (fun state => Holds state ∧
      (server.steps ids check state more).any (fun later => Later later) = true) _ sound only
    (by simpa using computed) with ⟨state, reached, onlyNow, holds, continued⟩
  rcases exists_reaches_only ids check more sound onlyNow continued with ⟨later, after, _, isLater⟩
  exact ⟨state, later, reached, after, holds, isLater⟩

end Computed

/-- After one entry of the table is set, a property of all entries has to be shown
for the new entry and for the other old ones. -/
theorem forall_update {Entry : Type} {table : ℕ → Option Entry} {id : ℕ} {entry : Entry}
    {Holds : ℕ → Entry → Prop} (own : Holds id entry)
    (others : ∀ other process, other ≠ id → table other = some process → Holds other process)
    {other : ℕ} {process : Entry}
    (found : update table id (some entry) other = some process) :
    Holds other process := by
  by_cases same : other = id
  · subst other
    simp only [update_self, Option.some.injEq] at found
    subst process
    exact own
  · rw [update_of_ne same] at found
    exact others other process same found

theorem forall_updated {Entry : Type} {table : ℕ → Option Entry} {id : ℕ} {entry : Entry}
    {Holds : ℕ → Entry → Prop} (own : Holds id entry)
    (others : ∀ other process, table other = some process → Holds other process) :
    ∀ other process, update table id (some entry) other = some process → Holds other process :=
  fun _ _ found => forall_update own (fun other process _ => others other process) found

theorem eq_none_of_update {Entry : Type} {table : ℕ → Option Entry} {id other : ℕ}
    {entry : Entry} (absent : update table id (some entry) other = none) :
    other ≠ id ∧ table other = none := by
  by_cases same : other = id
  · subst other
    simp at absent
  · rw [update_of_ne same] at absent
    exact ⟨same, absent⟩

/-- A property that holds initially and is kept by every step that meets the guard
holds in every state the guard reaches. -/
theorem Reaches.invariant {Invariant : State sig Store Call → Prop}
    (reached : server.Reaches guard initial state) (holdsInitially : Invariant initial)
    (kept : ∀ state action next, server.Reaches guard initial state → Invariant state →
      guard state action → server.StepCases state action next → Invariant next) :
    Invariant state := by
  induction reached with
  | refl => exact holdsInitially
  | step before met taken ih => exact kept _ _ _ before ih met (stepCases taken)

theorem Reaches.trans (first : server.Reaches guard initial state)
    (second : server.Reaches guard state next) : server.Reaches guard initial next := by
  induction second with
  | refl => exact first
  | step _ met taken ih => exact ih.step met taken

theorem Reaches.mono {weak : State sig Store Call → Action Call Choice Event → Prop}
    (reached : server.Reaches guard initial state)
    (implies : ∀ state action, guard state action → weak state action) :
    server.Reaches weak initial state := by
  induction reached with
  | refl => exact .refl
  | step _ met taken ih => exact ih.step (implies _ _ met) taken

section Related

variable {Phase : Type} {protocol : ℕ → Call → Protocol sig Phase} {post : Phase → Unit → Prop}
  {first : Phase} {Holds : Store → Prop}

/-- The call has yet to start, or the rest of it keeps to its protocol from this phase. -/
structure Stands (protocol : ℕ → Call → Protocol sig Phase) (post : Phase → Unit → Prop)
    (first : Phase) (state : State sig Store Call) (id : ℕ) (call : Call) (phase : Phase) :
    Prop where
  unstarted : state.processes id = none → phase = first
  running : ∀ process, state.processes id = some process →
    process.program.Obeys (protocol id call) post phase

/-- If every call keeps to a protocol of its own, and the steps keep what relates the store to the
phases, then all runs from a state without calls keep it. -/
theorem Reaches.related (reached : server.Reaches guard initial state) (Holds : Store → Prop)
    (Related : Store → ℕ → Call → Phase → Prop) (unstarted : ∀ id, initial.processes id = none)
    (bodies : ∀ id call, (server.body id call).Obeys (protocol id call) post first)
    (accepts : ∀ state id call next, guard state (.start id call) →
      server.accept call state.store = some next → Holds state.store →
        Holds next ∧ ∀ id call phase, Related state.store id call phase →
          Related next id call phase)
    (happens : ∀ state event next, guard state (.happen event) →
      server.happen event state.store = some next → Holds state.store →
        Holds next ∧ ∀ id call phase, Stands protocol post first state id call phase →
          Related state.store id call phase → Related next id call phase)
    (kept : ∀ state id call choice cmd phase, guard state (.advance id choice) →
      state.issued (.advance id choice : Action Call Choice Event) = some cmd →
      (protocol id call).allows phase cmd → Holds state.store → Related state.store id call phase →
        (protocol id call).expects phase cmd (server.handle cmd choice state.store).1 ∧
        Holds (server.handle cmd choice state.store).2 ∧
        Related (server.handle cmd choice state.store).2 id call
          ((protocol id call).after phase cmd (server.handle cmd choice state.store).1) ∧
        ∀ other call phase, other ≠ id → Related state.store other call phase →
          Related (server.handle cmd choice state.store).2 other call phase)
    (holds : Holds initial.store) (fresh : ∀ id call, Related initial.store id call first) :
    Holds state.store ∧
      (∀ id call, state.processes id = none → Related state.store id call first) ∧
      ∀ id process, state.processes id = some process →
        ∃ phase, Related state.store id process.call phase ∧
          process.program.Obeys (protocol id process.call) post phase := by
  apply reached.invariant
  · refine ⟨holds, fun id call _ => fresh id call, fun id process found => ?_⟩
    rw [unstarted] at found
    cases found
  · rintro state _ _ _ ⟨holds, fresh, running⟩ met cases
    cases cases with
    | start id call _ unused accepted =>
      rcases accepts _ id call _ met accepted holds with ⟨holdsNext, keeps⟩
      refine ⟨holdsNext, fun other call absent => ?_, ?_⟩
      · exact keeps other call first (fresh other call (eq_none_of_update absent).2)
      · refine forall_updated ⟨first, keeps id call first (fresh id call unused), bodies id call⟩ ?_
        intro other process found
        rcases running other process found with ⟨phase, related, obeys⟩
        exact ⟨phase, keeps other _ phase related, obeys⟩
    | advance id choice call cmd _ waiting =>
      rcases running id _ waiting with ⟨phase, related, allowed, later⟩
      rcases kept _ id call choice cmd phase met (State.issued_advance waiting choice) allowed holds
        related with ⟨expected, holdsNext, relatedNext, others⟩
      refine ⟨holdsNext, fun other call absent => ?_, fun other process found => ?_⟩
      · rcases eq_none_of_update absent with ⟨differs, wasAbsent⟩
        exact others other call first differs (fresh other call wasAbsent)
      · refine @forall_update _ _ _ _ (fun id process => ∃ phase, Related _ id process.call phase ∧
          process.program.Obeys (protocol id process.call) post phase)
          ⟨_, relatedNext, later _ expected⟩ ?_ other process found
        intro other process differs wasRunning
        rcases running other process wasRunning with ⟨otherPhase, otherRelated, obeys⟩
        exact ⟨otherPhase, others other _ otherPhase differs otherRelated, obeys⟩
    | happen event store happened =>
      rcases happens _ event store met happened holds with ⟨holdsNext, keeps⟩
      refine ⟨holdsNext, fun id call absent => ?_, fun id process found => ?_⟩
      · refine keeps id call first ⟨fun _ => rfl, fun process found => ?_⟩ (fresh id call absent)
        cases absent.symm.trans found
      · rcases running id process found with ⟨phase, related, obeys⟩
        refine ⟨phase, keeps id _ phase ⟨fun absent => ?_, fun other same => ?_⟩ related, obeys⟩
        · cases absent.symm.trans found
        · cases found.symm.trans same
          exact obeys

/-- If the calls keep to a protocol, and the answers to what it allows keep a property of the store,
then all runs from a state without calls keep the property. -/
theorem Reaches.obeys_invariant {protocol : Protocol sig Phase}
    (reached : server.Reaches guard initial state) (unstarted : ∀ id, initial.processes id = none)
    (bodies : ∀ id call, (server.body id call).Obeys protocol (fun _ _ => True) first)
    (accepts : ∀ call store next, server.accept call store = some next → Holds store → Holds next)
    (happens : ∀ event store next, server.happen event store = some next →
      Holds store → Holds next)
    (kept : ∀ state id choice cmd phase, guard state (.advance id choice) →
      state.issued (.advance id choice : Action Call Choice Event) = some cmd →
        protocol.allows phase cmd → Holds state.store →
          protocol.expects phase cmd (server.handle cmd choice state.store).1 ∧
            Holds (server.handle cmd choice state.store).2)
    (holds : Holds initial.store) : Holds state.store := by
  have related := reached.related Holds (fun _ _ _ _ => True) unstarted bodies
    (fun _ _ _ _ _ accepted holds => ⟨accepts _ _ _ accepted holds, fun _ _ _ => id⟩)
    (fun _ _ _ _ happened holds => ⟨happens _ _ _ happened holds, fun _ _ _ _ => id⟩)
  refine (related ?_ holds fun _ _ => trivial).1
  intro state id _ choice cmd phase met issued allowed holds _
  rcases kept state id choice cmd phase met issued allowed holds with ⟨expected, holdsNext⟩
  exact ⟨expected, holdsNext, trivial, fun _ _ _ _ _ => trivial⟩

/-- What the commands of the bodies keep, all runs from a state without calls keep. -/
theorem Reaches.store_invariant {allowed : sig.Cmd → Prop}
    (reached : server.Reaches guard initial state) (unstarted : ∀ id, initial.processes id = none)
    (bodies : ∀ id call, (server.body id call).Uses allowed)
    (accepts : ∀ call store next, server.accept call store = some next → Holds store → Holds next)
    (happens : ∀ event store next, server.happen event store = some next →
      Holds store → Holds next)
    (kept : ∀ state id choice cmd, guard state (.advance id choice) →
      state.issued (.advance id choice : Action Call Choice Event) = some cmd → allowed cmd →
        Holds state.store → Holds (server.handle cmd choice state.store).2)
    (holds : Holds initial.store) : Holds state.store := by
  let permitted : Protocol sig Unit := ⟨fun _ => allowed, fun _ _ _ => True, fun _ _ _ => ()⟩
  refine @Reaches.obeys_invariant _ _ _ _ _ _ _ _ _ _ () _ permitted reached unstarted ?_ accepts
    happens ?_ holds
  · exact fun id call => Program.obeys_of_uses (fun _ uses => uses) (fun _ _ _ => rfl)
      (bodies id call) fun _ => trivial
  · exact fun state id choice cmd _ met issued uses holds =>
      ⟨trivial, kept state id choice cmd met issued uses holds⟩

end Related

end Server

end CodeClash.Async
