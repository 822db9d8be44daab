import CodeClash.Async.Throwing

/-!
# Services that may fail

The commands of a database answer with a value or fail, and a command that fails changes nothing.
What a program asks of its own machine, such as the time, is always answered. A program throws the
failure of its command, and a `try` block replaces what was thrown.
-/

namespace CodeClash.Async

/-- Questions that are always answered, and commands that answer with a value or fail. -/
structure Services where
  Sense : Type
  Sensed : Sense → Type
  Cmd : Type
  Value : Cmd → Type
  Failure : Type

namespace Services

variable {services : Services} {Store Choice α β : Type}

abbrev Reply (services : Services) : services.Sense ⊕ services.Cmd → Type
  | .inl sense => services.Sensed sense
  | .inr cmd => Except services.Failure (services.Value cmd)

abbrev signature (services : Services) : Signature where
  Cmd := services.Sense ⊕ services.Cmd
  Reply := services.Reply

abbrev Prog (services : Services) (α : Type) := Throwing services.signature services.Failure α

def sense (question : services.Sense) : Program services.signature (services.Sensed question) :=
  @Program.perform services.signature (.inl question)

def call (cmd : services.Cmd) : services.Prog (services.Value cmd) :=
  ExceptT.mk (@Program.perform services.signature (.inr cmd))

def caught (fallback : α) (program : services.Prog α) : Program services.signature α :=
  program.run >>= fun outcome => .done (outcome.toOption.getD fallback)

structure Backend (services : Services) (Store Choice : Type) where
  sensed : (question : services.Sense) → Choice → services.Sensed question
  failure? : services.Cmd → Choice → Option services.Failure
  value : (cmd : services.Cmd) → Choice → Store → services.Value cmd
  write : services.Cmd → Choice → Store → Store

def Backend.handle (backend : services.Backend Store Choice) (cmd : services.signature.Cmd)
    (choice : Choice) (store : Store) : services.signature.Reply cmd × Store :=
  match cmd with
  | .inl question => (backend.sensed question choice, store)
  | .inr cmd =>
    match backend.failure? cmd choice with
    | some failure => (.error failure, store)
    | none => (.ok (backend.value cmd choice store), backend.write cmd choice store)

def Backend.alone (backend : services.Backend Store Choice) (choices : ℕ → Choice)
    (program : Program services.signature α) (store : Store) : α × Store :=
  program.run backend.handle (fun _ store => store) choices store

def Backend.Works (backend : services.Backend Store Choice) (choices : ℕ → Choice) : Prop :=
  ∀ cmd n, backend.failure? cmd (choices n) = none

namespace Backend

variable {backend : services.Backend Store Choice} {choices : ℕ → Choice} {store : Store}

theorem Works.later (works : backend.Works choices) : backend.Works fun n => choices (n + 1) :=
  fun cmd n => works cmd (n + 1)

theorem alone_pure (value : α) :
    backend.alone choices (pure value : services.Prog α).run store = (.ok value, store) := rfl

theorem alone_ask_sense_bind (question : services.Sense)
    (next : services.Sensed question → services.Prog β) :
    backend.alone choices (Throwing.ask (sense question) >>= next : services.Prog β).run store =
      backend.alone (fun n => choices (n + 1)) (next (backend.sensed question (choices 0))).run
        store := rfl

theorem alone_call_bind (works : backend.Works choices) (cmd : services.Cmd)
    (next : services.Value cmd → services.Prog β) :
    backend.alone choices (call cmd >>= next).run store =
      backend.alone (fun n => choices (n + 1)) (next (backend.value cmd (choices 0) store)).run
        (backend.write cmd (choices 0) store) := by
  simp only [alone, call, ExceptT.run_bind, ExceptT.run_mk, Program.perform_eq_issue,
    Program.issue_bind, Program.done_bind, Program.run, handle, works cmd 0]

theorem alone_call (works : backend.Works choices) (cmd : services.Cmd) :
    backend.alone choices (call cmd).run store =
      (.ok (backend.value cmd (choices 0) store), backend.write cmd (choices 0) store) := by
  simp only [alone, call, ExceptT.run_mk, Program.perform_eq_issue, Program.run, handle,
    works cmd 0]

variable {program : services.Prog α} {value : α} {after : Store}

theorem alone_bind (ends : backend.alone choices program.run store = (.ok value, after))
    (next : α → services.Prog β) :
    ∃ used, backend.alone choices (program >>= next).run store =
      backend.alone (fun n => choices (n + used)) (next value).run after := by
  rcases Program.run_bind backend.handle program.run (ExceptT.bindCont next)
    (fun _ store => store) choices store with ⟨used, split⟩
  rw [alone] at ends
  rw [ends] at split
  exact ⟨used, split⟩

theorem alone_caught {fallback : α}
    (ends : backend.alone choices program.run store = (.ok value, after)) :
    backend.alone choices (caught fallback program) store = (value, after) := by
  rw [alone, caught, Program.run_bind_done]
  rw [alone] at ends
  rw [ends]
  rfl

end Backend

end Services

end CodeClash.Async
