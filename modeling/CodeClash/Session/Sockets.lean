import CodeClash.Battle.GraceTimeout
import CodeClash.Session.Service

/-!
# What commands and handlers do to sockets

Most commands leave the sockets, the registry and the log alone. The others are described by what
they do to the identity of a socket, to its connection and to the registry.
-/

namespace CodeClash.Session

open Async Program Function
open Battle (UserId RoomId)
open Spell (truthy)

theorem eq_of_truthy {text : Option String} {value : String} (isTrue : truthy text = some value) :
    text = some value ∧ value ≠ "" := by
  simpa [truthy, Option.filter_eq_some_iff] using isTrue

namespace Store

variable {store : Store} {socketId other : SocketId}

theorem userId_modify_of_ne (differs : other ≠ socketId) (change : SocketState → SocketState) :
    (store.modify socketId change).userId other = store.userId other := by
  simp only [userId, modify, update_of_ne differs]

variable {change : SocketState → SocketState}

theorem userId_modify (keeps : ∀ socket, (change socket).userId = socket.userId) :
    (store.modify socketId change).userId other = store.userId other := by
  by_cases same : other = socketId
  · subst other
    simp only [userId, modify, update_self]
    cases store.sockets socketId with
    | none => rfl
    | some socket => exact keeps socket
  · exact userId_modify_of_ne same change

variable {userId set : UserId}

theorem eq_of_userId_modify (sets : ∀ socket, (change socket).userId = some set)
    (after : (store.modify socketId change).userId other = some userId) :
    store.userId other = some userId ∨ other = socketId ∧ userId = set := by
  by_cases same : other = socketId
  · subst other
    refine Or.inr ⟨rfl, ?_⟩
    simp only [Store.userId, modify, update_self] at after
    cases found : store.sockets socketId with
    | none => simp [found] at after
    | some socket =>
      rw [found] at after
      exact Option.some.inj (after.symm.trans (sets socket))
  · rw [userId_modify_of_ne same] at after
    exact Or.inl after

@[simp]
theorem userId_close : (store.close socketId).userId other = store.userId other :=
  userId_modify fun _ => rfl

end Store

def Cmd.Quiet : Cmd → Prop
  | .identify _ _ | .register _ _ | .displace _ _ | .close _ | .unregister _ | .restore _ _
  | .operate _ _ _ => False
  | _ => True

variable {verifyToken : ℤ → String → Option JWTPayload} {choice : Choice} {store : Store}

/-- What `handle` leaves alone at a quiet command. -/
structure Undisturbed (before after : Store) : Prop where
  sockets : after.sockets = before.sockets
  socketRegistry : after.socketRegistry = before.socketRegistry
  log : after.log = before.log

variable {cmd : Cmd} {after : Store}

theorem undisturbed_of_quiet (quiet : cmd.Quiet) :
    Undisturbed store (handle verifyToken cmd choice store).2 := by
  cases cmd <;> first | exact ⟨rfl, rfl, rfl⟩ | exact quiet.elim

theorem Undisturbed.userId (undisturbed : Undisturbed store after)
    (socketId : SocketId) : after.userId socketId = store.userId socketId := by
  simp only [Store.userId, undisturbed.sockets]

theorem displace_cases (userId : UserId) (existingSocketId : SocketId) :
    store.displace userId existingSocketId = store ∨
      store.displace userId existingSocketId = (store.emit existingSocketId
        (.displaced "You have been disconnected due to login from another tab.")).close
        existingSocketId := by
  rw [Store.displace]
  split
  · exact Or.inr rfl
  · exact Or.inl rfl

variable {socketId : SocketId}

theorem userId_after {userId : UserId}
    (after : (handle verifyToken cmd choice store).2.userId socketId = some userId) :
    store.userId socketId = some userId ∨
      (∃ token payload, cmd = .identify socketId token ∧
        verifyToken choice.now token = some payload ∧ payload.userId = userId) ∨
      cmd = .restore socketId userId := by
  by_cases quiet : cmd.Quiet
  · rw [(undisturbed_of_quiet quiet).userId] at after
    exact Or.inl after
  cases cmd with
  | identify _ token =>
    simp only [handle] at after
    cases verified : verifyToken choice.now token with
    | none =>
      rw [verified] at after
      exact Or.inl after
    | some payload =>
      rw [verified] at after
      rcases Store.eq_of_userId_modify (fun _ => rfl) after with before | ⟨rfl, rfl⟩
      · exact Or.inl before
      · exact Or.inr (Or.inl ⟨token, payload, rfl, verified, rfl⟩)
  | restore =>
    rcases Store.eq_of_userId_modify (fun _ => rfl) after with before | ⟨rfl, rfl⟩
    · exact Or.inl before
    · exact Or.inr (Or.inr rfl)
  | displace other existing =>
    rcases displace_cases other existing with unchanged | closed
    · exact Or.inl ((congrArg (Store.userId · socketId) unchanged).symm.trans after)
    · have kept := (congrArg (Store.userId · socketId) closed).symm.trans after
      rw [Store.userId_close] at kept
      exact Or.inl kept
  | close => exact Or.inl (Store.userId_close.symm.trans after)
  | unregister =>
    refine Or.inl (Eq.trans ?_ after)
    simp only [handle, Store.unregister]
    split <;> rfl
  | register => exact Or.inl after
  | operate => exact Or.inl after
  | _ => exact absurd trivial quiet

theorem accept_cases {call : Call} (accepted : accept call store = some after) :
    after = store ∨ ∃ socketId, call = .disconnect socketId ∧
      store.connected socketId = false ∧
      after = store.modify socketId fun socket => { socket with handled := true } := by
  simp only [accept] at accepted
  split at accepted
  · rename_i socketId socket found
    split at accepted
    · cases accepted
    · rename_i closed
      cases accepted
      refine Or.inr ⟨socketId, rfl, ?_, rfl⟩
      change store.sockets socketId = some socket at found
      simp only [Store.connected, found, Option.any_some]
      simp only [Bool.or_eq_true, not_or, Bool.not_eq_true] at closed
      exact closed.1
  · split at accepted
    · cases accepted
      exact Or.inl rfl
    · cases accepted
  · cases accepted

/-- Commands that concern neither who a socket acts for nor what is done for a user. -/
def Cmd.Plain : Cmd → Prop
  | .identify _ _ | .identity _ | .actingUser _ _ | .unregister _ | .restore _ _
  | .operate _ _ _ | .setGrace _ _ => False
  | _ => True

theorem displaceSession_plain (socketId : SocketId) (userId : UserId)
    (existing : Option SocketId) : (displaceSession socketId userId existing).Uses Cmd.Plain := by
  cases existing with
  | none => trivial
  | some =>
    simp only [displaceSession]
    split
    · trivial
    · exact ⟨trivial, fun _ => ⟨trivial, fun _ => ⟨trivial, fun _ => trivial⟩⟩⟩

theorem registerSession_plain (socketId : SocketId) (payload : JWTPayload) :
    (registerSession socketId payload).Uses Cmd.Plain := by
  apply uses_perform_bind trivial
  intro _
  apply uses_bind (displaceSession_plain _ _ _)
  intro _
  exact ⟨trivial, fun _ => ⟨trivial, fun _ => ⟨trivial, fun _ => trivial⟩⟩⟩

theorem clearSession_plain (socketId : SocketId) (userId : UserId) :
    (clearSession socketId userId).Uses Cmd.Plain := by
  apply uses_perform_bind trivial
  intro _
  split
  · exact uses_perform trivial
  · trivial

theorem startGrace_uses (userId : UserId) (rooms : List RoomId) :
    (startGrace userId rooms).Uses fun cmd : Cmd =>
      cmd.Plain ∨ ∃ grace, cmd = .setGrace userId grace := by
  induction rooms with
  | nil => trivial
  | cons _ _ ih =>
    apply uses_perform_bind (Or.inl trivial)
    intro _
    split
    · exact ih
    · split
      · exact ⟨Or.inl trivial, fun _ => ⟨Or.inr ⟨_, rfl⟩, fun _ => trivial⟩⟩
      · exact ih

theorem onCheckReconnection_uses (powTen : ℚ → ℚ) (socketId : SocketId) (userId : UserId) :
    (onCheckReconnection powTen socketId userId).Uses fun cmd : Cmd =>
      cmd.Plain ∨ cmd = .restore socketId userId := by
  apply uses_perform_bind (Or.inl trivial)
  intro _
  split
  · exact uses_perform (Or.inl trivial)
  · apply uses_perform_bind (Or.inl trivial)
    intro _
    split
    · exact ⟨Or.inr rfl, fun _ => ⟨Or.inl trivial, fun _ => ⟨Or.inl trivial, fun _ => trivial⟩⟩⟩
    · apply uses_bind
        ((Battle.handleGraceTimeout_uses userId).embed fun _ _ => Or.inl trivial)
      intro _
      exact uses_perform (Or.inl trivial)

end CodeClash.Session
