import CodeClash.Async.Program

/-!
# Protocols

A protocol follows one program through phases. In each phase it says which commands the program may
issue, which replies it has to be prepared for, and which phase a reply leads to. `Program.Obeys` is
a weakest precondition: it is computed from the program alone and composes along `bind`.
-/

namespace CodeClash.Async

/-- What a program may do in each phase, and where each reply leads. -/
structure Protocol (sig : Signature) (Phase : Type) where
  allows : Phase → sig.Cmd → Prop
  expects : Phase → (cmd : sig.Cmd) → sig.Reply cmd → Prop
  after : Phase → (cmd : sig.Cmd) → sig.Reply cmd → Phase

namespace Program

variable {sig : Signature} {Phase α β : Type} {protocol : Protocol sig Phase}

/-- The program keeps to the protocol from a phase, and ends in `post`. -/
def Obeys (protocol : Protocol sig Phase) (post : Phase → α → Prop) :
    Program sig α → Phase → Prop
  | .done value, phase => post phase value
  | .issue cmd next, phase =>
    protocol.allows phase cmd ∧
      ∀ reply, protocol.expects phase cmd reply →
        (next reply).Obeys protocol post (protocol.after phase cmd reply)

variable {post : Phase → α → Prop} {phase : Phase} {program : Program sig α} {Store Choice : Type}

variable {cmd : sig.Cmd} {next : α → Program sig β} {neutral : sig.Cmd → Prop}

@[simp]
theorem obeys_issue {next : sig.Reply cmd → Program sig α} :
    (Program.issue cmd next).Obeys protocol post phase ↔
      protocol.allows phase cmd ∧
        ∀ reply, protocol.expects phase cmd reply →
          (next reply).Obeys protocol post (protocol.after phase cmd reply) := Iff.rfl

theorem obeys_bind {post : Phase → β → Prop} :
    (program >>= next).Obeys protocol post phase ↔
      program.Obeys protocol (fun reached value => (next value).Obeys protocol post reached)
        phase := by
  induction program generalizing phase with
  | done => exact Iff.rfl
  | issue _ _ ih =>
    simp only [issue_bind, obeys_issue]
    apply and_congr_right
    intro _
    apply forall_congr'
    intro reply
    apply imp_congr_right
    intro _
    exact ih reply

theorem obeys_perform_bind {post : Phase → β → Prop}
    {next : sig.Reply cmd → Program sig β} (allowed : protocol.allows phase cmd)
    (later : ∀ reply, protocol.expects phase cmd reply →
      (next reply).Obeys protocol post (protocol.after phase cmd reply)) :
    (perform cmd >>= next).Obeys protocol post phase := ⟨allowed, later⟩

theorem Obeys.mono {weak strong : Phase → α → Prop} (obeys : program.Obeys protocol strong phase)
    (implies : ∀ reached value, strong reached value → weak reached value) :
    program.Obeys protocol weak phase := by
  induction program generalizing phase with
  | done value => exact implies phase value obeys
  | issue _ _ ih =>
    rcases obeys with ⟨allowed, later⟩
    exact ⟨allowed, fun reply expected => ih reply (later reply expected)⟩

/-- Sequential composition when the second program keeps to the protocol from
whatever phase the first one ends in. -/
theorem Obeys.bind_of_forall {post : Phase → β → Prop}
    (first : program.Obeys protocol (fun _ _ => True) phase)
    (rest : ∀ reached value, (next value).Obeys protocol post reached) :
    (program >>= next).Obeys protocol post phase :=
  obeys_bind.mpr (first.mono fun reached value _ => rest reached value)

theorem Uses.obeys_invariant {Invariant : Phase → Prop} (uses : program.Uses neutral)
    (allowed : ∀ phase cmd, Invariant phase → neutral cmd → protocol.allows phase cmd)
    (kept : ∀ phase cmd reply, Invariant phase → neutral cmd →
      protocol.expects phase cmd reply → Invariant (protocol.after phase cmd reply))
    (holds : Invariant phase) :
    program.Obeys protocol (fun reached _ => Invariant reached) phase := by
  induction program generalizing phase with
  | done => exact holds
  | issue cmd _ ih =>
    rcases uses with ⟨permitted, later⟩
    refine ⟨allowed phase cmd holds permitted, ?_⟩
    intro reply expected
    exact ih reply (later reply) (kept phase cmd reply holds permitted expected)

theorem obeys_of_forall (allowed : ∀ phase cmd, protocol.allows phase cmd)
    (final : ∀ reached value, post reached value) (program : Program sig α) (phase : Phase) :
    program.Obeys protocol post phase := by
  induction program generalizing phase with
  | done value => exact final phase value
  | issue cmd _ ih => exact ⟨allowed phase cmd, fun reply _ => ih reply _⟩

/-- A program that only issues commands which are allowed in a phase and do not
leave it stays in that phase. -/
theorem obeys_of_uses (allowed : ∀ cmd, neutral cmd → protocol.allows phase cmd)
    (stays : ∀ cmd, neutral cmd → ∀ reply, protocol.after phase cmd reply = phase)
    (uses : program.Uses neutral) (final : ∀ value, post phase value) :
    program.Obeys protocol post phase := by
  have ends : program.Obeys protocol (fun reached _ => reached = phase) phase := by
    refine uses.obeys_invariant ?_ ?_ rfl
    · rintro _ cmd rfl permitted
      exact allowed cmd permitted
    · rintro _ cmd reply rfl permitted _
      exact stays cmd permitted reply
  refine ends.mono ?_
  rintro _ value rfl
  exact final value

/-- From a safe phase no `hits` command is issued before a `stops` command, if safe phases allow
none and only a `stops` command leaves them. -/
theorem Obeys.not_reaches {Safe : Phase → Prop} {stops hits : sig.Cmd → Prop}
    (expected : ∀ phase cmd reply, protocol.expects phase cmd reply)
    (noHit : ∀ phase cmd, Safe phase → protocol.allows phase cmd → ¬hits cmd)
    (staysSafe : ∀ phase cmd reply, Safe phase → protocol.allows phase cmd → ¬stops cmd →
      Safe (protocol.after phase cmd reply))
    (obeys : program.Obeys protocol post phase) (safe : Safe phase) :
    ¬program.Reaches stops hits := by
  induction program generalizing phase with
  | done =>
    intro reaches
    exact reaches
  | issue cmd _ ih =>
    rcases obeys with ⟨allowed, later⟩
    rintro (hit | ⟨goesOn, reply, reaches⟩)
    · exact noHit phase cmd safe allowed hit
    · exact ih reply (later reply (expected phase cmd reply))
        (staysSafe phase cmd reply safe allowed goesOn) reaches

variable {choices : ℕ → Choice} {store : Store}

/--
A program that obeys a protocol and runs while the rest of the world keeps the
relation between store and phase ends related to some phase, with its
postcondition. The relation may depend on the number of commands issued so far. The
run is total, so this is total correctness.
-/
theorem Obeys.run {handle : (cmd : sig.Cmd) → Choice → Store → sig.Reply cmd × Store}
    {meanwhile : ℕ → Store → Store} {Related : ℕ → Store → Phase → Prop}
    (undisturbed : ∀ n store phase, Related n store phase → Related n (meanwhile n store) phase)
    (answered : ∀ n cmd store phase, Related n store phase → protocol.allows phase cmd →
      protocol.expects phase cmd (handle cmd (choices n) store).1 ∧
        Related (n + 1) (handle cmd (choices n) store).2
          (protocol.after phase cmd (handle cmd (choices n) store).1))
    (obeys : program.Obeys protocol post phase) (related : Related 0 store phase) :
    ∃ n reached, Related n (program.run handle meanwhile choices store).2 reached ∧
      post reached (program.run handle meanwhile choices store).1 := by
  induction program generalizing store phase meanwhile choices Related with
  | done => exact ⟨0, phase, related, obeys⟩
  | issue cmd _ ih =>
    rcases obeys with ⟨allowed, later⟩
    rcases answered 0 cmd _ phase (undisturbed 0 store phase related) allowed with
      ⟨expected, relatedNext⟩
    rcases ih _ (fun n => undisturbed (n + 1)) (fun n => answered (n + 1))
      (later _ expected) relatedNext with ⟨n, reached, relatedLast, holds⟩
    exact ⟨n + 1, reached, relatedLast, holds⟩

/--
A program that runs alone and obeys a protocol whose phases are what is seen of the store ends
with its postcondition.
-/
theorem Obeys.run_alone {handle : (cmd : sig.Cmd) → Choice → Store → sig.Reply cmd × Store}
    {abstract : Store → Phase} (answered : ∀ n cmd store, protocol.allows (abstract store) cmd →
      protocol.expects (abstract store) cmd (handle cmd (choices n) store).1 ∧
        abstract (handle cmd (choices n) store).2 =
          protocol.after (abstract store) cmd (handle cmd (choices n) store).1)
    (obeys : program.Obeys protocol post (abstract store)) :
    post (abstract (program.run handle (fun _ store => store) choices store).2)
      (program.run handle (fun _ store => store) choices store).1 := by
  induction program generalizing store choices with
  | done => exact obeys
  | issue cmd _ ih =>
    rcases obeys with ⟨allowed, later⟩
    rcases answered 0 cmd store allowed with ⟨expected, same⟩
    refine ih _ (fun n => answered (n + 1)) ?_
    rw [same]
    exact later _ expected

/-- The protocol of a run alone, whose phases count the commands and have the store. -/
def scheduled {Store Choice : Type}
    (handle : (cmd : sig.Cmd) → Choice → Store → sig.Reply cmd × Store) (choices : ℕ → Choice) :
    Protocol sig (ℕ × Store) where
  allows _ _ := True
  expects phase cmd answer := answer = (handle cmd (choices phase.1) phase.2).1
  after phase cmd _ := (phase.1 + 1, (handle cmd (choices phase.1) phase.2).2)

theorem Obeys.run_scheduled {handle : (cmd : sig.Cmd) → Choice → Store → sig.Reply cmd × Store}
    {post : ℕ × Store → α → Prop}
    (obeys : program.Obeys (scheduled handle choices) post (0, store)) :
    ∃ n, post (n, (program.run handle (fun _ store => store) choices store).2)
      (program.run handle (fun _ store => store) choices store).1 := by
  have ends := @Obeys.run sig (ℕ × Store) α (scheduled handle choices) post (0, store) program
    Store Choice choices store handle (fun _ store => store)
    (fun n store phase => phase = (n, store)) (fun _ _ _ same => same) ?_ obeys rfl
  · rcases ends with ⟨n, _, rfl, holds⟩
    exact ⟨n, holds⟩
  · rintro _ _ _ _ rfl _
    exact ⟨rfl, rfl⟩

end Program

end CodeClash.Async
