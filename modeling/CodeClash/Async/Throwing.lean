import CodeClash.Async.Protocol

/-!
# Programs that throw

A program that may throw ends in a value or in an error, and an error skips what comes after
it. Commands whose reply may be an error of their own are attempted: the error is thrown. What a
throwing program uses, and whether it obeys a protocol, is again composed along `bind`.
-/

namespace CodeClash.Async

/-- Programs that end in a value or throw an error. -/
abbrev Throwing (sig : Signature) (ε α : Type) := ExceptT ε (Program sig) α

namespace Throwing

variable {sig : Signature} {ε α β : Type}

def ask (program : Program sig α) : Throwing sig ε α :=
  ExceptT.mk (program >>= fun value => .done (.ok value))

def attempt {φ : Type} (thrown : φ → ε) (program : Program sig (Except φ α)) :
    Throwing sig ε α :=
  ExceptT.mk (program >>= fun reply => .done (reply.mapError thrown))

/-- Run all programs. If some of them throw, the first error is thrown after the last program
has ended. -/
def all : List (Throwing sig ε α) → Throwing sig ε (List α)
  | [] => pure []
  | program :: programs => ExceptT.mk do
      let outcome ← program.run
      let outcomes ← (all programs).run
      return outcome.bind fun value => outcomes.map (value :: ·)

section Uses

variable {allowed : sig.Cmd → Prop}

theorem uses_bind {program : Throwing sig ε α} {next : α → Throwing sig ε β}
    (first : program.run.Uses allowed) (rest : ∀ value, (next value).run.Uses allowed) :
    (program >>= next).run.Uses allowed := by
  refine Program.uses_bind first ?_
  intro outcome
  cases outcome with
  | ok value => exact rest value
  | error => trivial

theorem uses_ask {program : Program sig α} (uses : program.Uses allowed) :
    (ask program : Throwing sig ε α).run.Uses allowed :=
  Program.uses_bind uses fun _ => trivial

theorem uses_attempt {φ : Type} {thrown : φ → ε} {program : Program sig (Except φ α)}
    (uses : program.Uses allowed) : (attempt thrown program).run.Uses allowed :=
  Program.uses_bind uses fun _ => trivial

theorem uses_all {programs : List (Throwing sig ε α)}
    (uses : ∀ program ∈ programs, program.run.Uses allowed) : (all programs).run.Uses allowed := by
  induction programs with
  | nil => trivial
  | cons program _ ih =>
    refine Program.uses_bind (uses program List.mem_cons_self) fun _ => ?_
    refine Program.uses_bind (ih fun other member => ?_) fun _ => trivial
    exact uses other (List.mem_cons_of_mem _ member)

end Uses

section Obeys

variable {Phase : Type} {protocol : Protocol sig Phase} {phase : Phase}

/-- What an outcome has to satisfy so that the rest can go on from there. -/
def Continues (rest : Phase → α → Prop) (post : Phase → Except ε β → Prop) (reached : Phase) :
    Except ε α → Prop
  | .ok value => rest reached value
  | .error error => post reached (.error error)

variable {post : Phase → Except ε β → Prop} {program : Throwing sig ε α}
  {next : α → Throwing sig ε β} {value : α} {Result : α → Prop}

theorem obeys_bind (first : program.run.Obeys protocol
      (Continues (fun reached value => (next value).run.Obeys protocol post reached) post)
        phase) :
    (program >>= next).run.Obeys protocol post phase := by
  refine Program.obeys_bind.mpr (first.mono ?_)
  intro _ outcome holds
  cases outcome with
  | ok => exact holds
  | error => exact holds

def Ends (outcome : Except ε α) (last : Phase) (reached : Phase) (actual : Except ε α) : Prop :=
  actual = outcome ∧ reached = last

variable {middle : Phase} {error : ε}

theorem obeys_bind_ok (first : program.run.Obeys protocol (Ends (.ok value) middle) phase)
    (rest : (next value).run.Obeys protocol post middle) :
    (program >>= next).run.Obeys protocol post phase := by
  refine obeys_bind (first.mono ?_)
  rintro _ _ ⟨rfl, rfl⟩
  exact rest

theorem obeys_bind_error (first : program.run.Obeys protocol (Ends (.error error) middle) phase)
    (final : post middle (.error error)) : (program >>= next).run.Obeys protocol post phase := by
  refine obeys_bind (first.mono ?_)
  rintro _ _ ⟨rfl, rfl⟩
  exact final

/-- What an outcome has to satisfy so that its error can be handled. -/
def Handles (rest : Phase → ε → Prop) (post : Phase → Except ε α → Prop) (reached : Phase) :
    Except ε α → Prop
  | .ok value => post reached (.ok value)
  | .error error => rest reached error

variable {handler : ε → Throwing sig ε α} {fails : Bool} {Store Choice : Type} {n : ℕ}
  {cmd : sig.Cmd}

theorem obeys_tryCatch {post : Phase → Except ε α → Prop} (tried : program.run.Obeys protocol
      (Handles (fun reached error => (handler error).run.Obeys protocol post reached) post) phase) :
    (tryCatch program handler).run.Obeys protocol post phase := by
  refine Program.obeys_bind.mpr (tried.mono ?_)
  intro _ outcome holds
  cases outcome with
  | ok => exact holds
  | error => exact holds

theorem obeys_tryCatch_pure {Holds : Phase → Prop}
    (tried : program.run.Obeys protocol (fun reached _ => Holds reached) phase) (value : α) :
    (tryCatch program fun _ => pure value).run.Obeys protocol (fun reached _ => Holds reached)
      phase := by
  refine obeys_tryCatch (tried.mono ?_)
  intro _ outcome holds
  cases outcome with
  | ok => exact holds
  | error => exact holds

def outcome (error : ε) (fails : Bool) (value : α) : Except ε α :=
  if fails then .error error else .ok value

theorem obeys_bind_outcome
    (first : program.run.Obeys protocol (Ends (outcome error fails value) middle) phase)
    (failed : fails = true → post middle (.error error))
    (rest : fails = false → (next value).run.Obeys protocol post middle) :
    (program >>= next).run.Obeys protocol post phase := by
  cases fails with
  | true => exact obeys_bind_error first (failed rfl)
  | false => exact obeys_bind_ok first (rest rfl)

theorem issue_scheduled
    {handle : (cmd : sig.Cmd) → Choice → Store → sig.Reply cmd × Store} {choices : ℕ → Choice}
    {store last : Store} {next : sig.Reply cmd → Program sig (Except ε α)}
    {ended : Except ε α} (answered : next (handle cmd (choices n) store).1 = .done ended)
    (written : (handle cmd (choices n) store).2 = last) :
    (Program.issue cmd next).Obeys (Program.scheduled handle choices) (Ends ended (n + 1, last))
      (n, store) := by
  refine ⟨trivial, ?_⟩
  rintro _ rfl
  change (next (handle cmd (choices n) store).1).Obeys _ _ (n + 1, (handle cmd (choices n) store).2)
  rw [answered, written]
  exact ⟨rfl, rfl⟩

theorem attempt_scheduled {φ : Type}
    {handle : (cmd : sig.Cmd) → Choice → Store → sig.Reply cmd × Store} {choices : ℕ → Choice}
    {store last : Store} {thrown : φ → ε} (failure : φ)
    {read : sig.Reply cmd → Except φ α} (answered : read (handle cmd (choices n) store).1 =
      if fails then .error failure else .ok value)
    (written : (handle cmd (choices n) store).2 = last) :
    (Program.issue cmd fun reply => .done ((read reply).mapError thrown)).Obeys
      (Program.scheduled handle choices)
      (Ends (outcome (thrown failure) fails value) (n + 1, last)) (n, store) := by
  refine issue_scheduled ?_ written
  rw [answered]
  cases fails <;> rfl

/-- The program comes back to its phase, and a value that it ends in is as said. -/
def Returns (protocol : Protocol sig Phase) (phase : Phase) (Result : α → Prop)
    (program : Throwing sig ε α) : Prop :=
  program.run.Obeys protocol
    (fun reached outcome => reached = phase ∧ ∀ value, outcome = .ok value → Result value) phase

theorem returns_pure (result : Result value) :
    Returns protocol phase Result (pure value : Throwing sig ε α) := by
  refine ⟨rfl, ?_⟩
  rintro _ ⟨⟩
  exact result

theorem Returns.bind (first : Returns protocol phase Result program)
    (rest : ∀ value, Result value → (next value).run.Obeys protocol post phase)
    (failed : ∀ error, post phase (.error error)) :
    (program >>= next).run.Obeys protocol post phase := by
  refine obeys_bind (first.mono ?_)
  rintro _ outcome ⟨rfl, result⟩
  cases outcome with
  | ok value => exact rest value (result value rfl)
  | error error => exact failed error

theorem returns_bind {Final : β → Prop} (first : Returns protocol phase Result program)
    (rest : ∀ value, Result value → Returns protocol phase Final (next value)) :
    Returns protocol phase Final (program >>= next) := by
  refine first.bind rest fun error => ⟨rfl, ?_⟩
  rintro _ ⟨⟩

theorem returns_tryCatch (tried : Returns protocol phase Result program)
    (handled : ∀ error, Returns protocol phase Result (handler error)) :
    Returns protocol phase Result (tryCatch program handler) := by
  refine obeys_tryCatch (tried.mono ?_)
  rintro _ outcome ⟨rfl, result⟩
  cases outcome with
  | ok => exact ⟨rfl, result⟩
  | error error => exact handled error

theorem returns_of_uses {neutral : sig.Cmd → Prop}
    (allowed : ∀ cmd, neutral cmd → protocol.allows phase cmd)
    (stays : ∀ cmd, neutral cmd → ∀ reply, protocol.after phase cmd reply = phase)
    (uses : program.run.Uses neutral) : Returns protocol phase (fun _ => True) program :=
  Program.obeys_of_uses allowed stays uses fun _ => ⟨rfl, fun _ _ => trivial⟩

end Obeys

section Alone

variable {Store Choice : Type} {handle : (cmd : sig.Cmd) → Choice → Store → sig.Reply cmd × Store}
  {choices : ℕ → Choice} {Holds : Store → Prop}

/-- A program that runs alone, from the command with a number on, ends in a store where this
holds. -/
abbrev LeadsTo (handle : (cmd : sig.Cmd) → Choice → Store → sig.Reply cmd × Store)
    (choices : ℕ → Choice) (Holds : Store → Prop) (program : Throwing sig ε α)
    (phase : ℕ × Store) : Prop :=
  program.run.Obeys (Program.scheduled handle choices) (fun reached _ => Holds reached.2) phase

variable {program : Throwing sig ε α}

theorem LeadsTo.run {store : Store} (leads : LeadsTo handle choices Holds program (0, store)) :
    Holds (program.run.run handle (fun _ store => store) choices store).2 := by
  rcases leads.run_scheduled with ⟨_, holds⟩
  exact holds

variable {phase : ℕ × Store}

theorem leadsTo_of_uses {permitted : sig.Cmd → Prop} (uses : program.run.Uses permitted)
    (kept : ∀ cmd, permitted cmd → ∀ choice store, Holds store → Holds (handle cmd choice store).2)
    (holds : Holds phase.2) : LeadsTo handle choices Holds program phase := by
  refine uses.obeys_invariant (fun _ _ _ _ => trivial) ?_ holds
  intro _ cmd _ holds permitted _
  exact kept cmd permitted _ _ holds

end Alone

end Throwing

end CodeClash.Async
