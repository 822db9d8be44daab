import CodeClash.Async.Embedding
import CodeClash.Async.History

/-!
# Transcripts of one program

A transcript of a program is a path through it: the commands on the path with the replies that
were given, up to the value at its end. Replies are arbitrary, so a statement about all
transcripts holds of the program among any other programs, whatever fails.
-/

namespace CodeClash.Async.Program

variable {sig : Signature} {α β : Type}

/-- The program ends with the value when its commands are answered as in the list. -/
inductive Yields : Program sig α → List (Answer sig) → α → Prop where
  | done (value : α) : Yields (.done value) [] value
  | issue {cmd : sig.Cmd} {next : sig.Reply cmd → Program sig α} (reply : sig.Reply cmd)
      {rest : List (Answer sig)} {value : α} (later : Yields (next reply) rest value) :
      Yields (.issue cmd next) (⟨cmd, reply⟩ :: rest) value

variable {value : α} {past : List (Answer sig)}

theorem yields_done {result : α} :
    (Program.done value : Program sig α).Yields past result ↔ past = [] ∧ result = value := by
  constructor
  · rintro ⟨⟩
    exact ⟨rfl, rfl⟩
  · rintro ⟨rfl, rfl⟩
    exact .done result

variable {cmd : sig.Cmd} {program : Program sig α}

theorem yields_issue {next : sig.Reply cmd → Program sig α} :
    (Program.issue cmd next).Yields past value ↔
      ∃ reply rest, past = ⟨cmd, reply⟩ :: rest ∧ (next reply).Yields rest value := by
  constructor
  · rintro (_ | @⟨_, _, reply, rest, _, later⟩)
    exact ⟨reply, rest, rfl, later⟩
  · rintro ⟨reply, _, rfl, later⟩
    exact .issue reply later

theorem yields_perform_bind {next : sig.Reply cmd → Program sig α} :
    (perform cmd >>= next).Yields past value ↔
      ∃ reply rest, past = ⟨cmd, reply⟩ :: rest ∧ (next reply).Yields rest value := yields_issue

theorem yields_bind {next : α → Program sig β} {value : β} :
    (program >>= next).Yields past value ↔
      ∃ first middle rest, past = first ++ rest ∧ program.Yields first middle ∧
        (next middle).Yields rest value := by
  constructor
  · intro yields
    induction program generalizing past with
    | done middle => exact ⟨[], middle, past, rfl, .done middle, yields⟩
    | issue cmd _ ih =>
      rcases yields_issue.mp yields with ⟨reply, rest, rfl, later⟩
      rcases ih reply later with ⟨first, middle, last, rfl, before, after⟩
      exact ⟨⟨cmd, reply⟩ :: first, middle, last, rfl, .issue reply before, after⟩
  · rintro ⟨_, middle, _, rfl, before, after⟩
    induction before with
    | done => exact after
    | issue reply _ ih => exact .issue reply (ih after)

theorem Uses.yields {allowed : sig.Cmd → Prop}
    (uses : program.Uses allowed) (yields : program.Yields past value) :
    ∀ answer ∈ past, allowed answer.cmd := by
  induction yields with
  | done =>
    intro answer member
    cases member
  | issue reply _ ih =>
    rcases uses with ⟨permitted, usesLater⟩
    rintro answer (_ | ⟨_, member⟩)
    · exact permitted
    · exact ih (usesLater reply) answer member

theorem Yields.of_embed {inner outer : Signature} {wrap : inner.Cmd → outer.Cmd}
    {unwrap : (cmd : inner.Cmd) → outer.Reply (wrap cmd) → inner.Reply cmd}
    {program : Program inner α} {past : List (Answer outer)}
    (yields : (program.embed wrap unwrap).Yields past value) :
    ∃ own, program.Yields own value := by
  induction program generalizing past with
  | done =>
    rcases yields_done.mp yields with ⟨_, rfl⟩
    exact ⟨[], .done value⟩
  | issue cmd _ ih =>
    rcases yields_issue.mp yields with ⟨reply, _, rfl, later⟩
    rcases ih (unwrap cmd reply) later with ⟨own, found⟩
    exact ⟨⟨cmd, unwrap cmd reply⟩ :: own, .issue _ found⟩

section Record

variable {Store Choice : Type} (handle : (cmd : sig.Cmd) → Choice → Store → sig.Reply cmd × Store)

def record (meanwhile : ℕ → Store → Store) (choices : ℕ → Choice) :
    Program sig α → Store → List (Answer sig)
  | .done _, _ => []
  | .issue cmd next, store =>
    let answer := handle cmd (choices 0) (meanwhile 0 store)
    ⟨cmd, answer.1⟩ ::
      (next answer.1).record (fun n => meanwhile (n + 1)) (fun n => choices (n + 1)) answer.2

theorem yields_run (meanwhile : ℕ → Store → Store) (choices : ℕ → Choice)
    (program : Program sig α) (store : Store) :
    program.Yields (program.record handle meanwhile choices store)
      (program.run handle meanwhile choices store).1 := by
  induction program generalizing store meanwhile choices with
  | done value => exact .done value
  | issue _ _ ih => exact .issue _ (ih _ _ _ _)

theorem exists_yields_run (meanwhile : ℕ → Store → Store) (choices : ℕ → Choice)
    (program : Program sig α) (store : Store) :
    ∃ past, program.Yields past (program.run handle meanwhile choices store).1 :=
  ⟨_, yields_run handle meanwhile choices program store⟩

end Record

theorem obeys_recording (program : Program sig α) (past : List (Answer sig)) :
    program.Obeys (recording fun _ _ => True)
      (fun reached value => ∃ own, reached = past ++ own ∧ program.Yields own value) past := by
  induction program generalizing past with
  | done value => exact ⟨[], (List.append_nil past).symm, .done value⟩
  | issue cmd _ ih =>
    refine ⟨trivial, ?_⟩
    intro reply _
    refine (ih reply (past ++ [⟨cmd, reply⟩])).mono ?_
    rintro _ _ ⟨own, rfl, yields⟩
    exact ⟨⟨cmd, reply⟩ :: own, by simp, .issue reply yields⟩

end CodeClash.Async.Program

namespace CodeClash.Async.Server

variable {sig : Signature} {Store Call Choice Event α : Type}
  {server : Server sig Store Call Choice Event}
  {guard : State sig Store Call → Action Call Choice Event → Prop}
  {initial state : State sig Store Call} {history : List (Record sig Call)}

/-- A call that is done has made a transcript of its program. -/
theorem Runs.yields {program : Call → Program sig α} {id : ℕ} {call : Call}
    (runs : server.Runs guard initial history state)
    (fresh : ∀ id, initial.processes id = none)
    (bodies : ∀ id call, server.body id call = program call >>= fun _ => .done ())
    (found : state.processes id = some ⟨call, .done ()⟩) :
    ∃ value, (program call).Yields (transcript id history) value := by
  have records (id : ℕ) (call : Call) : (server.body id call).Obeys (recording fun _ _ => True)
      (fun past _ => ∃ value, (program call).Yields past value) [] := by
    rw [bodies]
    refine Program.obeys_bind.mpr (((program call).obeys_recording []).mono ?_)
    rintro _ value ⟨_, rfl, yields⟩
    exact ⟨value, yields⟩
  exact runs.follows fresh records (fun _ _ _ _ _ _ => trivial) _ _ found

end CodeClash.Async.Server
