import CodeClash.Async.System
import Mathlib.Algebra.BigOperators.Group.List.Basic
import Mathlib.Data.List.Nodup

/-!
# Runs with their history

Reachability forgets how a state was reached. Here a run keeps its history: the calls it started and
the commands it answered. A transcript, the part of one call, is a phase collected by the protocol
`recording`, and sums over all commands can be taken call by call.
-/

namespace CodeClash.Async

open Function

structure Answer (sig : Signature) where
  cmd : sig.Cmd
  reply : sig.Reply cmd

inductive Record (sig : Signature) (Call : Type) where
  | started (id : ℕ) (call : Call)
  | answered (id : ℕ) (answer : Answer sig)

section Histories

variable {sig : Signature} {Call : Type}

def startedCalls (history : List (Record sig Call)) : List (ℕ × Call) :=
  history.filterMap fun
    | .started id call => some (id, call)
    | .answered _ _ => none

def answers (history : List (Record sig Call)) : List (Answer sig) :=
  history.filterMap fun
    | .started _ _ => none
    | .answered _ answer => some answer

def transcript (id : ℕ) (history : List (Record sig Call)) : List (Answer sig) :=
  history.filterMap fun
    | .started _ _ => none
    | .answered other answer => if other = id then some answer else none

variable {history : List (Record sig Call)} {id other : ℕ}

@[simp]
theorem startedCalls_started (call : Call) :
    startedCalls (history ++ [.started id call]) = startedCalls history ++ [(id, call)] := by
  simp [startedCalls]

@[simp]
theorem startedCalls_answered (answer : Answer sig) :
    startedCalls (history ++ [.answered id answer]) = startedCalls history := by
  simp [startedCalls]

@[simp]
theorem answers_started (call : Call) :
    answers (history ++ [.started id call]) = answers history := by
  simp [answers]

@[simp]
theorem answers_answered (answer : Answer sig) :
    answers (history ++ [.answered id answer]) = answers history ++ [answer] := by
  simp [answers]

@[simp]
theorem transcript_started (call : Call) :
    transcript id (history ++ [.started other call]) = transcript id history := by
  simp [transcript]

theorem transcript_answered (answer : Answer sig) :
    transcript id (history ++ [.answered other answer]) =
      transcript id history ++ if other = id then [answer] else [] := by
  by_cases same : other = id <;> simp [transcript, same]

theorem mem_of_mem_transcript {answer : Answer sig} (present : answer ∈ transcript id history) :
    .answered id answer ∈ history := by
  rcases List.mem_filterMap.mp present with ⟨record, recorded, kept⟩
  cases record with
  | started => cases kept
  | answered =>
    rcases Option.ite_none_right_eq_some.mp kept with ⟨rfl, same⟩
    cases same
    exact recorded

end Histories

def recording {sig : Signature} (expects : (cmd : sig.Cmd) → sig.Reply cmd → Prop) :
    Protocol sig (List (Answer sig)) where
  allows _ _ := True
  expects _ cmd reply := expects cmd reply
  after past cmd reply := past ++ [⟨cmd, reply⟩]

namespace Server

variable {sig : Signature} {Store Call Choice Event : Type}

/-- The runs whose steps all meet `guard`, with their history and the state they reach. -/
inductive Runs (server : Server sig Store Call Choice Event)
    (guard : State sig Store Call → Action Call Choice Event → Prop)
    (initial : State sig Store Call) : List (Record sig Call) → State sig Store Call → Prop where
  | refl : Runs server guard initial [] initial
  | start {history : List (Record sig Call)} {state : State sig Store Call} {id : ℕ} {call : Call}
      {store : Store} (runs : Runs server guard initial history state)
      (met : guard state (.start id call)) (unused : state.processes id = none)
      (accepted : server.accept call state.store = some store) :
      Runs server guard initial (history ++ [.started id call])
        ⟨store, update state.processes id (some ⟨call, server.body id call⟩)⟩
  | advance {history : List (Record sig Call)} {state : State sig Store Call} {id : ℕ}
      {choice : Choice} {call : Call} {cmd : sig.Cmd} {rest : sig.Reply cmd → Program sig Unit}
      (runs : Runs server guard initial history state) (met : guard state (.advance id choice))
      (waiting : state.processes id = some ⟨call, .issue cmd rest⟩) :
      Runs server guard initial
        (history ++ [.answered id ⟨cmd, (server.handle cmd choice state.store).1⟩])
        ⟨(server.handle cmd choice state.store).2, update state.processes id
          (some ⟨call, rest (server.handle cmd choice state.store).1⟩)⟩
  | happen {history : List (Record sig Call)} {state : State sig Store Call} {event : Event}
      {store : Store} (runs : Runs server guard initial history state)
      (met : guard state (.happen event))
      (happened : server.happen event state.store = some store) :
      Runs server guard initial history ⟨store, state.processes⟩

variable {server : Server sig Store Call Choice Event}
  {guard : State sig Store Call → Action Call Choice Event → Prop}
  {initial state : State sig Store Call} {history : List (Record sig Call)}

/-- The table of calls has the calls that were started, and no call has a transcript before
it is started. -/
structure Matches (history : List (Record sig Call)) (state : State sig Store Call) : Prop where
  numbered : ((startedCalls history).map Prod.fst).Nodup
  present : ∀ id process, state.processes id = some process →
    (id, process.call) ∈ startedCalls history
  absent : ∀ id, state.processes id = none →
    id ∉ (startedCalls history).map Prod.fst ∧ transcript id history = []

theorem Runs.matches (runs : server.Runs guard initial history state)
    (fresh : ∀ id, initial.processes id = none) : Matches history state := by
  induction runs with
  | refl =>
    refine ⟨List.nodup_nil, ?_, fun id _ => ⟨List.not_mem_nil, rfl⟩⟩
    intro id process found
    rw [fresh id] at found
    cases found
  | @start _ _ id _ _ _ _ unused _ ih =>
    refine ⟨?_, ?_, ?_⟩
    · rw [startedCalls_started, List.map_append, List.nodup_append]
      refine ⟨ih.numbered, List.nodup_singleton _, ?_⟩
      rintro other known _ isAdded rfl
      have isNew : other = id := List.mem_singleton.mp isAdded
      subst isNew
      exact (ih.absent other unused).1 known
    · intro other process found
      rw [startedCalls_started]
      apply forall_update _ _ found
      · exact List.mem_append_right _ (List.mem_singleton.mpr rfl)
      · intro other process _ found
        exact List.mem_append_left _ (ih.present other process found)
    · intro other absent
      rcases eq_none_of_update absent with ⟨differs, absentBefore⟩
      have before := ih.absent other absentBefore
      refine ⟨?_, ?_⟩
      · rw [startedCalls_started, List.map_append, List.mem_append]
        rintro (known | isNew)
        · exact before.1 known
        · exact differs (List.mem_singleton.mp isNew)
      · rw [transcript_started]
        exact before.2
  | @advance _ _ id _ _ _ _ _ _ waiting ih =>
    refine ⟨by simpa using ih.numbered, ?_, ?_⟩
    · intro other process found
      rw [startedCalls_answered]
      apply forall_update _ _ found
      · have present := ih.present id _ waiting
        exact present
      · intro other process _ found
        exact ih.present other process found
    · intro other absent
      rcases eq_none_of_update absent with ⟨differs, absentBefore⟩
      have before := ih.absent other absentBefore
      refine ⟨by simpa using before.1, ?_⟩
      rw [transcript_answered, before.2, if_neg (Ne.symm differs)]
      rfl
  | happen _ _ _ ih => exact ⟨ih.numbered, ih.present, ih.absent⟩

/--
What each body establishes about its own transcript holds of the rest of every call of a
run, from the transcript the call has so far. The guard must make every reply an expected
one.
-/
theorem Runs.follows {expects : (cmd : sig.Cmd) → sig.Reply cmd → Prop}
    {post : Call → List (Answer sig) → Unit → Prop}
    (runs : server.Runs guard initial history state)
    (fresh : ∀ id, initial.processes id = none)
    (bodies : ∀ id call, (server.body id call).Obeys (recording expects) (post call) [])
    (expected : ∀ state id choice cmd, guard state (.advance id choice) →
      state.issued (.advance id choice : Action Call Choice Event) = some cmd →
        expects cmd (server.handle cmd choice state.store).1) :
    ∀ id process, state.processes id = some process →
      process.program.Obeys (recording expects) (post process.call) (transcript id history) := by
  induction runs with
  | refl =>
    intro id process found
    rw [fresh id] at found
    cases found
  | @start _ _ id call _ runs _ unused _ ih =>
    intro other process found
    rw [transcript_started]
    apply forall_update _ _ found
    · rw [((runs.matches fresh).absent id unused).2]
      exact bodies id call
    · intro other process _ found
      exact ih other process found
  | @advance _ state id choice _ cmd _ _ met waiting ih =>
    intro other process found
    rw [transcript_answered]
    apply forall_update _ _ found
    · rcases ih id _ waiting with ⟨_, later⟩
      rw [if_pos rfl]
      apply later
      exact expected state id choice cmd met (State.issued_advance waiting choice)
    · intro other process differs found
      rw [if_neg (Ne.symm differs), List.append_nil]
      exact ih other process found
  | happen _ _ _ ih => exact ih

theorem Runs.started_process (runs : server.Runs guard initial history state)
    {id : ℕ} {call : Call} (started : (id, call) ∈ startedCalls history) :
    ∃ program, state.processes id = some ⟨call, program⟩ := by
  induction runs with
  | refl => cases started
  | @start _ _ other _ _ _ _ unused _ ih =>
    rw [startedCalls_started, List.mem_append] at started
    by_cases same : id = other
    · subst other
      rcases started with known | isNew
      · rcases ih known with ⟨program, found⟩
        rw [unused] at found
        cases found
      · cases List.mem_singleton.mp isNew
        exact ⟨_, update_self _ _ _⟩
    · rcases started with known | isNew
      · rcases ih known with ⟨program, found⟩
        exact ⟨program, (update_of_ne same _ _).trans found⟩
      · cases List.mem_singleton.mp isNew
        exact absurd rfl same
  | @advance _ _ other _ _ _ _ _ _ waiting ih =>
    rw [startedCalls_answered] at started
    rcases ih started with ⟨program, found⟩
    by_cases same : id = other
    · subst other
      rw [waiting] at found
      cases found
      exact ⟨_, update_self _ _ _⟩
    · exact ⟨program, (update_of_ne same _ _).trans found⟩
  | happen _ _ _ ih => exact ih started

section Sums

variable {M : Type} [AddCommMonoid M]

theorem sum_ite_of_mem {calls : List (ℕ × Call)} {id : ℕ} {call : Call} (value : M)
    (numbered : (calls.map Prod.fst).Nodup) (started : (id, call) ∈ calls) :
    (calls.map fun entry => if id = entry.1 then value else 0).sum = value := by
  induction calls with
  | nil => cases started
  | cons entry calls ih =>
    rw [List.map_cons, List.nodup_cons] at numbered
    rcases numbered with ⟨unrepeated, numberedRest⟩
    rw [List.map_cons, List.sum_cons]
    rcases List.mem_cons.mp started with rfl | later
    · have others : (calls.map fun entry => if id = entry.1 then value else (0 : M)).sum = 0 := by
        apply List.sum_eq_zero
        intro _ inList
        rcases List.mem_map.mp inList with ⟨other, present, rfl⟩
        rw [if_neg]
        rintro rfl
        exact unrepeated (List.mem_map.mpr ⟨other, present, rfl⟩)
      rw [others, if_pos rfl, add_zero]
    · have differs : id ≠ entry.1 := by
        rintro rfl
        exact unrepeated (List.mem_map.mpr ⟨_, later, rfl⟩)
      rw [if_neg differs, zero_add, ih numberedRest later]

/-- A quantity summed over all answered commands is summed call by call. -/
theorem Runs.sum_answers (runs : server.Runs guard initial history state)
    (fresh : ∀ id, initial.processes id = none) (value : Answer sig → M) :
    ((answers history).map value).sum =
      ((startedCalls history).map fun entry =>
        ((transcript entry.1 history).map value).sum).sum := by
  induction runs with
  | refl => rfl
  | @start _ _ id _ _ runs _ unused _ ih =>
    have untouched := ((runs.matches fresh).absent id unused).2
    simp [ih, untouched]
  | @advance history _ id _ _ _ _ runs _ waiting ih =>
    have matched := runs.matches fresh
    have grows (entry : ℕ × Call) (answer : Answer sig) :
        ((transcript entry.1 (history ++ [.answered id answer])).map value).sum =
          ((transcript entry.1 history).map value).sum +
            if id = entry.1 then value answer else 0 := by
      rw [transcript_answered]
      by_cases same : id = entry.1 <;> simp [same]
    simp only [grows, startedCalls_answered, answers_answered, List.map_append,
      List.sum_append, List.map_cons, List.map_nil, List.sum_cons, List.sum_nil, add_zero,
      List.sum_map_add]
    rw [ih, sum_ite_of_mem _ matched.numbered (matched.present id _ waiting)]
  | happen _ _ _ ih => exact ih

end Sums

def record (server : Server sig Store Call Choice Event) (ids : List ℕ)
    (check : State sig Store Call → Action Call Choice Event → Bool)
    (history : List (Record sig Call)) (state : State sig Store Call) :
    List (Action Call Choice Event) → Option (List (Record sig Call) × State sig Store Call)
  | [] => some (history, state)
  | action :: actions =>
    if action.within ids && check state action then
      match server.step state action with
      | some next => server.record ids check (history ++ entry state action) next actions
      | none => none
    else none
where
  entry (state : State sig Store Call) : Action Call Choice Event → List (Record sig Call)
    | .start id call => [.started id call]
    | .advance id choice =>
      match state.processes id with
      | some ⟨_, .issue cmd _⟩ => [.answered id ⟨cmd, (server.handle cmd choice state.store).1⟩]
      | _ => []
    | .happen _ => []

theorem Runs.step {action : Action Call Choice Event} {next : State sig Store Call}
    (runs : server.Runs guard initial history state) (met : guard state action)
    (cases : server.StepCases state action next) :
    server.Runs guard initial (history ++ record.entry server state action) next := by
  cases cases with
  | start _ _ _ unused accepted => exact runs.start met unused accepted
  | advance _ _ _ _ _ waiting =>
    simp only [record.entry, waiting]
    exact runs.advance met waiting
  | happen _ _ happened =>
    rw [record.entry, List.append_nil]
    exact runs.happen met happened

theorem record_runs {ids : List ℕ}
    {check : State sig Store Call → Action Call Choice Event → Bool}
    {actions : List (Action Call Choice Event)}
    {recorded : List (Record sig Call) × State sig Store Call}
    (sound : ∀ state action, state.Only ids → check state action = true → guard state action)
    (runs : server.Runs guard initial history state) (only : state.Only ids)
    (taken : server.record ids check history state actions = some recorded) :
    server.Runs guard initial recorded.1 recorded.2 ∧ recorded.2.Only ids := by
  induction actions generalizing state history with
  | nil =>
    simp only [record, Option.some.injEq] at taken
    subst recorded
    exact ⟨runs, only⟩
  | cons action _ ih =>
    simp only [record] at taken
    split at taken
    · rename_i checked
      rcases Bool.and_eq_true_iff.mp checked with ⟨within, passed⟩
      cases possible : server.step state action with
      | none => simp [possible] at taken
      | some =>
        simp only [possible] at taken
        exact ih (runs.step (sound state action only passed) (stepCases possible))
          ((stepCases possible).only within only) taken
    · cases taken

/-- A computed run to the end of all its calls. -/
theorem exists_runs (ids : List ℕ)
    (check : State sig Store Call → Action Call Choice Event → Bool)
    (actions : List (Action Call Choice Event))
    {Holds : List (Record sig Call) → State sig Store Call → Prop}
    [∀ history, DecidablePred (Holds history)]
    (sound : ∀ state action, state.Only ids → check state action = true → guard state action)
    (only : initial.Only ids)
    (computed : (server.record ids check [] initial actions).any
      (fun recorded => finished ids recorded.2 && Holds recorded.1 recorded.2) = true) :
    ∃ history state, server.Runs guard initial history state ∧
      (∀ id process, state.processes id = some process → process.program = .done ()) ∧
        Holds history state := by
  rcases Option.any_eq_true_iff_get _ _ |>.mp computed with ⟨taken, holds⟩
  rcases record_runs sound .refl only (Option.some_get taken).symm with ⟨runs, onlyLast⟩
  rcases Bool.and_eq_true_iff.mp holds with ⟨done, holds⟩
  exact ⟨_, _, runs, finished_done onlyLast done, of_decide_eq_true holds⟩

end Server

end CodeClash.Async
