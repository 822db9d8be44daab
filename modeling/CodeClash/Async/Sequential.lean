import CodeClash.Async.Protocol
import CodeClash.Async.System

/-!
# Calls one at a time

In a run in which calls do not overlap, the running call knows what a protocol says about the store.
If every body obeys the protocol from wherever it is started, what the allowed commands keep holds
in every state of the run. `Throughout` states what is asked of every call of a sequence.
-/

namespace CodeClash.Async

variable {sig : Signature} {Store Call Choice Event : Type}

def State.Idle (state : State sig Store Call) : Prop :=
  ∀ id process, state.processes id = some process → process.program = .done ()

def State.OneAtATime (state : State sig Store Call) (action : Action Call Choice Event) : Prop :=
  ∀ id call, action = .start id call → state.Idle

namespace Server

variable {server : Server sig Store Call Choice Event}
  {guard : State sig Store Call → Action Call Choice Event → Prop}
  {initial state : State sig Store Call}

/-- The call is done, or it is the only one that is not and obeys the protocol. -/
def HasTurn {Phase : Type} (protocol : Protocol sig Phase) (phase : Phase)
    (state : State sig Store Call) (id : ℕ) (process : Process sig Call) : Prop :=
  process.program = .done () ∨
    process.program.Obeys protocol (fun _ _ => True) phase ∧
      ∀ other waiting, other ≠ id → state.processes other = some waiting →
        waiting.program = .done ()

/-- What the allowed commands keep, runs of calls one at a time keep. -/
theorem Reaches.invariant_of_turns {Phase : Type} {protocol : Protocol sig Phase}
    {abstract : Store → Phase} {Holds : Phase → Prop}
    (reached : server.Reaches guard initial state) (unstarted : ∀ id, initial.processes id = none)
    (alone : ∀ state action, guard state action → state.OneAtATime action)
    (bodies : ∀ state id call, guard state (.start id call) → Holds (abstract state.store) →
      (server.body id call).Obeys protocol (fun _ _ => True) (abstract state.store))
    (accepts : ∀ call store next, server.accept call store = some next →
      abstract next = abstract store)
    (happens : ∀ event store next, server.happen event store = some next →
      abstract next = abstract store)
    (answered : ∀ cmd choice store,
      protocol.expects (abstract store) cmd (server.handle cmd choice store).1 ∧
        abstract (server.handle cmd choice store).2 =
          protocol.after (abstract store) cmd (server.handle cmd choice store).1)
    (kept : ∀ phase cmd reply, Holds phase → protocol.allows phase cmd →
      protocol.expects phase cmd reply → Holds (protocol.after phase cmd reply))
    (holds : Holds (abstract initial.store)) : Holds (abstract state.store) := by
  have both : Holds (abstract state.store) ∧ ∀ id process, state.processes id = some process →
      HasTurn protocol (abstract state.store) state id process := by
    apply reached.invariant
    · refine ⟨holds, fun id process found => ?_⟩
      rw [unstarted] at found
      cases found
    · intro state _ _ _ invariant met cases
      rcases invariant with ⟨holds, turns⟩
      cases cases with
      | start id call _ _ accepted =>
        have idle := alone state _ met id call rfl
        have same := accepts _ _ _ accepted
        refine ⟨same ▸ holds, ?_⟩
        intro other process found
        refine forall_update ?_ (fun other process _ found => ?_) found
        · refine .inr ⟨same ▸ bodies state id call met holds, ?_⟩
          intro other waiting differs found
          exact idle other waiting ((Function.update_of_ne differs _ _).symm.trans found)
        · exact .inl (idle other process found)
      | advance id choice _ cmd _ waiting =>
        rcases turns id _ waiting with isDone | ⟨⟨allowed, later⟩, othersDone⟩
        · cases isDone
        · rcases answered cmd choice state.store with ⟨expected, same⟩
          refine ⟨same ▸ kept _ _ _ holds allowed expected, ?_⟩
          intro other process found
          refine forall_update ?_ (fun other process differs found => ?_) found
          · refine .inr ⟨same ▸ later _ expected, ?_⟩
            intro other waiting differs found
            exact othersDone other waiting differs
              ((Function.update_of_ne differs _ _).symm.trans found)
          · exact .inl (othersDone other process differs found)
      | happen _ _ happened =>
        have same := happens _ _ _ happened
        exact ⟨same ▸ holds, fun id process found => same ▸ turns id process found⟩
  exact both.1

end Server

section Sequences

variable {ι σ : Type} {step : ι → σ → σ}

/-- Every call of a sequence meets a condition on it and the states before and after it. -/
def Throughout (step : ι → σ → σ) (Holds : ι → σ → σ → Prop) : List ι → σ → Prop
  | [], _ => True
  | call :: calls, state =>
    Holds call state (step call state) ∧ Throughout step Holds calls (step call state)

/-- Two conditions that agree where an invariant holds that the first keeps are met throughout the
same sequences. -/
theorem throughout_iff (Invariant : σ → Prop) {Holds Meets : ι → σ → σ → Prop}
    (same : ∀ call state, Invariant state →
      (Holds call state (step call state) ↔ Meets call state (step call state)))
    (kept : ∀ call state, Invariant state → Holds call state (step call state) →
      Invariant (step call state))
    {state : σ} (holds : Invariant state) (calls : List ι) :
    Throughout step Holds calls state ↔ Throughout step Meets calls state := by
  induction calls generalizing state with
  | nil => exact Iff.rfl
  | cons call _ ih =>
    rw [Throughout, Throughout, ← same call state holds]
    exact and_congr_right fun first => ih (kept call state holds first)

end Sequences

end CodeClash.Async
