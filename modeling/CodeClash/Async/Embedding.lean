import CodeClash.Async.Program

/-!
# Programs within larger signatures

A program over one signature is a program over a larger one whose commands wrap its own. The
wrapped program issues wrapped commands only. Its run is the run of the program itself on the
part of the store that wrapped commands work on.
-/

namespace CodeClash.Async.Program

variable {inner outer : Signature} {α : Type}

def embed (wrap : inner.Cmd → outer.Cmd)
    (unwrap : (cmd : inner.Cmd) → outer.Reply (wrap cmd) → inner.Reply cmd) :
    Program inner α → Program outer α
  | .done value => .done value
  | .issue cmd next => .issue (wrap cmd) fun reply => (next (unwrap cmd reply)).embed wrap unwrap

variable {wrap : inner.Cmd → outer.Cmd}
  {unwrap : (cmd : inner.Cmd) → outer.Reply (wrap cmd) → inner.Reply cmd}

theorem Uses.embed {allowed : inner.Cmd → Prop} {permitted : outer.Cmd → Prop}
    {program : Program inner α} (uses : program.Uses allowed)
    (wraps : ∀ cmd, allowed cmd → permitted (wrap cmd)) :
    (program.embed wrap unwrap).Uses permitted := by
  induction program with
  | done => trivial
  | issue cmd _ ih => exact ⟨wraps cmd uses.1, fun reply => ih _ (uses.2 _)⟩

section Running

variable {Inner Outer InnerChoice OuterChoice : Type}
  {handleInner : (cmd : inner.Cmd) → InnerChoice → Inner → inner.Reply cmd × Inner}
  {handleOuter : (cmd : outer.Cmd) → OuterChoice → Outer → outer.Reply cmd × Outer}
  (part : Outer → Inner) (choose : OuterChoice → InnerChoice)

theorem run_embed
    (wraps : ∀ cmd choice store,
      handleInner cmd (choose choice) (part store) =
        (unwrap cmd (handleOuter (wrap cmd) choice store).1,
          part (handleOuter (wrap cmd) choice store).2))
    (program : Program inner α) (choices : ℕ → OuterChoice) (store : Outer) :
    program.run handleInner (fun _ store => store) (fun n => choose (choices n)) (part store) =
      (((program.embed wrap unwrap).run handleOuter (fun _ store => store) choices store).1,
        part ((program.embed wrap unwrap).run handleOuter (fun _ store => store) choices
          store).2) := by
  induction program generalizing store choices with
  | done => rfl
  | issue _ _ ih =>
    simp only [run, embed, wraps]
    exact ih _ (fun n => choices (n + 1)) _

end Running

end CodeClash.Async.Program
