import Mathlib.Data.Nat.Notation
import Mathlib.Logic.Function.Basic

/-!
# Programs that issue commands

A program either is done or issues one command and continues with the reply. The same program can be
run alone, run between the steps of other programs, or inspected. Programs are finite trees: a
recursive procedure is written by recursion on its data, so `Program.run` is total.
-/

namespace CodeClash.Async

/-- The commands a program may issue, with the type of the reply to each. -/
structure Signature where
  Cmd : Type
  Reply : Cmd → Type

/-- A program over a signature: done with a value, or waiting for a reply. -/
inductive Program (sig : Signature) (α : Type) : Type where
  | done (value : α) : Program sig α
  | issue (cmd : sig.Cmd) (next : sig.Reply cmd → Program sig α) : Program sig α

namespace Program

variable {sig : Signature} {α β γ : Type}

def bind (program : Program sig α) (next : α → Program sig β) : Program sig β :=
  match program with
  | .done value => next value
  | .issue cmd rest => .issue cmd fun reply => (rest reply).bind next

instance : Monad (Program sig) where
  pure := .done
  bind := bind

def perform (cmd : sig.Cmd) : Program sig (sig.Reply cmd) :=
  .issue cmd .done

@[simp]
theorem pure_eq_done (value : α) : (pure value : Program sig α) = .done value := rfl

@[simp]
theorem done_bind (value : α) (next : α → Program sig β) :
    (Program.done value >>= next) = next value := rfl

@[simp]
theorem issue_bind (cmd : sig.Cmd) (rest : sig.Reply cmd → Program sig α)
    (next : α → Program sig β) :
    (Program.issue cmd rest >>= next) = .issue cmd fun reply => rest reply >>= next := rfl

theorem bind_done (program : Program sig α) : (program >>= .done) = program := by
  induction program with
  | done => rfl
  | issue _ _ ih =>
    rw [issue_bind]
    exact congrArg _ (funext ih)

theorem bind_assoc (program : Program sig α) (next : α → Program sig β)
    (last : β → Program sig γ) :
    (program >>= next >>= last) = (program >>= fun value => next value >>= last) := by
  induction program with
  | done => rfl
  | issue _ _ ih =>
    simp only [issue_bind]
    exact congrArg _ (funext ih)

@[simp]
theorem perform_eq_issue (cmd : sig.Cmd) : perform cmd = .issue cmd .done := rfl

section Solo

variable {Store Choice : Type}

/--
Run a program from a store. The `n`th command is answered by `handle` under the
`n`th choice, after the rest of the world has changed the store by `meanwhile n`.
-/
def run (handle : (cmd : sig.Cmd) → Choice → Store → sig.Reply cmd × Store)
    (meanwhile : ℕ → Store → Store) (choices : ℕ → Choice) :
    Program sig α → Store → α × Store
  | .done value, store => (value, store)
  | .issue cmd next, store =>
    let answer := handle cmd (choices 0) (meanwhile 0 store)
    (next answer.1).run handle (fun n => meanwhile (n + 1)) (fun n => choices (n + 1)) answer.2

variable (handle : (cmd : sig.Cmd) → Choice → Store → sig.Reply cmd × Store)

theorem run_bind (program : Program sig α) (next : α → Program sig β)
    (meanwhile : ℕ → Store → Store) (choices : ℕ → Choice) (store : Store) :
    ∃ used, (program >>= next).run handle meanwhile choices store =
      (next (program.run handle meanwhile choices store).1).run handle
        (fun n => meanwhile (n + used)) (fun n => choices (n + used))
        (program.run handle meanwhile choices store).2 := by
  induction program generalizing store meanwhile choices with
  | done => exact ⟨0, rfl⟩
  | issue cmd _ ih =>
    rcases ih (handle cmd (choices 0) (meanwhile 0 store)).1 (fun n => meanwhile (n + 1))
      (fun n => choices (n + 1)) (handle cmd (choices 0) (meanwhile 0 store)).2 with
      ⟨used, later⟩
    refine ⟨used + 1, ?_⟩
    simp only [issue_bind, run]
    rw [later]
    rfl

theorem run_bind_done (program : Program sig α) (compute : α → β)
    (meanwhile : ℕ → Store → Store) (choices : ℕ → Choice) (store : Store) :
    (program >>= fun value => .done (compute value)).run handle meanwhile choices store =
      (compute (program.run handle meanwhile choices store).1,
        (program.run handle meanwhile choices store).2) := by
  rcases run_bind handle program (fun value => .done (compute value)) meanwhile choices store with
    ⟨_, split⟩
  exact split

end Solo

def head? : Program sig α → Option sig.Cmd
  | .done _ => none
  | .issue cmd _ => some cmd

/-- Some path through the program issues a `hits` command before any `stops` command. -/
def Reaches (stops hits : sig.Cmd → Prop) : Program sig α → Prop
  | .done _ => False
  | .issue cmd next => hits cmd ∨ ¬stops cmd ∧ ∃ reply, (next reply).Reaches stops hits

variable {cmd : sig.Cmd} {allowed : sig.Cmd → Prop} {program : Program sig α}

variable {hits : sig.Cmd → Prop} {next : α → Program sig β} {Store Choice : Type}

theorem not_reaches_issue {stops : sig.Cmd → Prop} {next : sig.Reply cmd → Program sig α}
    (never : ¬(Program.issue cmd next).Reaches stops hits) :
    ¬hits cmd ∧ (¬stops cmd → ∀ reply, ¬(next reply).Reaches stops hits) := by
  refine ⟨?_, ?_⟩
  · intro hit
    exact never (Or.inl hit)
  · intro goesOn reply later
    exact never (Or.inr ⟨goesOn, reply, later⟩)

/-- Every command on every path through the program satisfies `allowed`. -/
def Uses (allowed : sig.Cmd → Prop) : Program sig α → Prop
  | .done _ => True
  | .issue cmd next => allowed cmd ∧ ∀ reply, (next reply).Uses allowed

theorem Uses.run_invariant {handle : (cmd : sig.Cmd) → Choice → Store → sig.Reply cmd × Store}
    (uses : program.Uses allowed)
    (Holds : Store → Prop) {meanwhile : ℕ → Store → Store} {choices : ℕ → Choice} {store : Store}
    (undisturbed : ∀ n store, Holds store → Holds (meanwhile n store))
    (kept : ∀ cmd, allowed cmd → ∀ choice store, Holds store → Holds (handle cmd choice store).2)
    (holds : Holds store) : Holds (program.run handle meanwhile choices store).2 := by
  induction program generalizing store meanwhile choices with
  | done => exact holds
  | issue cmd _ ih =>
    apply ih _ (uses.2 _) fun n => undisturbed (n + 1)
    exact kept cmd uses.1 _ _ (undisturbed 0 store holds)

theorem uses_bind (first : program.Uses allowed)
    (rest : ∀ value, (next value).Uses allowed) : (program >>= next).Uses allowed := by
  induction program with
  | done value => exact rest value
  | issue _ _ ih =>
    rcases first with ⟨permitted, later⟩
    exact ⟨permitted, fun reply => ih reply (later reply)⟩

theorem uses_of_forall (permitted : ∀ cmd, allowed cmd)
    (program : Program sig α) : program.Uses allowed := by
  induction program with
  | done => trivial
  | issue cmd _ ih => exact ⟨permitted cmd, ih⟩

theorem run_invariant
    {handle : (cmd : sig.Cmd) → Choice → Store → sig.Reply cmd × Store} (Holds : Store → Prop)
    {meanwhile : ℕ → Store → Store} {choices : ℕ → Choice}
    {store : Store} (undisturbed : ∀ n store, Holds store → Holds (meanwhile n store))
    (kept : ∀ cmd choice store, Holds store → Holds (handle cmd choice store).2)
    (holds : Holds store) : Holds (program.run handle meanwhile choices store).2 := by
  have uses : program.Uses fun _ => True := uses_of_forall (fun _ => trivial) program
  exact uses.run_invariant Holds undisturbed (fun cmd _ => kept cmd) holds

theorem uses_perform (permitted : allowed cmd) :
    (perform cmd).Uses allowed := ⟨permitted, fun _ => trivial⟩

theorem uses_perform_bind {next : sig.Reply cmd → Program sig β} (permitted : allowed cmd)
    (later : ∀ reply, (next reply).Uses allowed) : (perform cmd >>= next).Uses allowed :=
  ⟨permitted, later⟩

theorem uses_mono {weak strong : sig.Cmd → Prop}
    (uses : program.Uses strong) (implies : ∀ cmd, strong cmd → weak cmd) :
    program.Uses weak := by
  induction program with
  | done => trivial
  | issue cmd _ ih =>
    rcases uses with ⟨permitted, later⟩
    exact ⟨implies cmd permitted, fun reply => ih reply (later reply)⟩

end Program

end CodeClash.Async
