import CodeClash.Session.Sockets

/-!
# Who a socket acts for

Whenever a handler calls a service for a user, its socket should have presented a token of that user
before. But `queue:join` takes the user of its payload when the socket has none, and
`check:reconnection` takes over the identity of any user with a fresh grace record.
-/

namespace CodeClash.Session

open Async Program Server
open Battle (UserId RoomId)
open Spell (truthy)

section Identity

variable (verifyToken : ℤ → String → Option JWTPayload)

/-- The socket has presented a token that was accepted for the user. -/
def Presented (log : List Event) (socketId : SocketId) (userId : UserId) : Prop :=
  ∃ token moment payload, Event.presented socketId token moment ∈ log ∧
    verifyToken moment token = some payload ∧ payload.userId = userId

/-- Every call into a service was for a user for whom its socket had presented a token. -/
def Genuine : List Event → Prop
  | [] => True
  | .operated socketId userId _ :: earlier =>
    Presented verifyToken earlier socketId userId ∧ Genuine earlier
  | _ :: earlier => Genuine earlier

/-- A socket without identity does not name a user when it joins the queue, and a socket that
finds a fresh grace record has presented a token for its user. -/
def Honest (state : ServerState) (action : ServerAction) : Prop :=
  match state.issued action with
  | some (.actingUser socketId claimed) =>
    truthy claimed = none ∨ truthy (state.store.userId socketId) ≠ none
  | some (.restore socketId userId) => Presented verifyToken state.store.log socketId userId
  | _ => True

def learn (known : List (SocketId × UserId)) (socketId : SocketId) (reply : Option UserId) :
    List (SocketId × UserId) :=
  match reply with
  | some userId => (socketId, userId) :: known
  | none => known

/-- The protocol of the handlers: they call services for users whose identity they read from
the socket. -/
def acting : Protocol signature (List (SocketId × UserId)) where
  allows known cmd :=
    match cmd with
    | .operate socketId userId _ => (socketId, userId) ∈ known
    | _ => True
  expects _ _ _ := True
  after known cmd reply :=
    match cmd, reply with
    | .identity socketId, reply => learn known socketId reply
    | .actingUser socketId _, reply => learn known socketId reply
    | .unregister socketId, reply => learn known socketId reply
    | _, _ => known

def Cmd.Impersonal : Cmd → Prop
  | .identity _ | .actingUser _ _ | .unregister _ | .operate _ _ _ => False
  | _ => True

variable {known : List (SocketId × UserId)} {cmd : Cmd} {store after : Store}

theorem acting_bind_impersonal {α : Type} {first : Prog α} {next : α → Prog Unit}
    (uses : first.Uses Cmd.Impersonal)
    (rest : ∀ value, (next value).Obeys acting (fun _ _ => True) known) :
    (first >>= next).Obeys acting (fun _ _ => True) known := by
  refine obeys_bind.mpr (obeys_of_uses ?_ ?_ uses rest)
  · intro cmd impersonal
    cases cmd with
    | operate => exact impersonal.elim
    | _ => trivial
  · intro cmd impersonal _
    cases cmd with
    | identity | actingUser | unregister => exact impersonal.elim
    | _ => rfl

theorem acting_of_impersonal {program : Prog Unit}
    (uses : program.Uses Cmd.Impersonal) : program.Obeys acting (fun _ _ => True) known := by
  rw [← Program.bind_done program]
  exact acting_bind_impersonal uses fun _ => trivial

theorem Cmd.Plain.impersonal (plain : cmd.Plain) : cmd.Impersonal := by
  cases cmd <;> first | exact plain | trivial

theorem onAuthenticate_impersonal (socketId : SocketId) (token : String) :
    (onAuthenticate socketId token).Uses Cmd.Impersonal := by
  apply uses_perform_bind trivial
  intro _
  split
  · exact uses_perform trivial
  · exact uses_mono (registerSession_plain _ _) fun _ => Cmd.Plain.impersonal

theorem clearSession_impersonal (socketId : SocketId) (userId : UserId) :
    (clearSession socketId userId).Uses Cmd.Impersonal :=
  uses_mono (clearSession_plain socketId userId) fun _ => Cmd.Plain.impersonal

theorem startGrace_impersonal (userId : UserId) (rooms : List RoomId) :
    (startGrace userId rooms).Uses Cmd.Impersonal := by
  apply uses_mono (startGrace_uses userId rooms)
  rintro _ (plain | ⟨_, rfl⟩)
  · exact plain.impersonal
  · trivial

theorem onCheckReconnection_impersonal (powTen : ℚ → ℚ) (socketId : SocketId)
    (userId : UserId) : (onCheckReconnection powTen socketId userId).Uses Cmd.Impersonal := by
  apply uses_mono (onCheckReconnection_uses powTen socketId userId)
  rintro _ (plain | rfl)
  · exact plain.impersonal
  · trivial

variable {socketId : SocketId} {userId : UserId} {choice : Choice}

theorem joinQueue_acting (elo : Option ℤ) (member : (socketId, userId) ∈ known) :
    (joinQueue socketId userId elo).Obeys acting (fun _ _ => True) known := by
  refine ⟨trivial, fun _ _ => ⟨trivial, fun _ _ => ⟨member, fun _ _ => ?_⟩⟩⟩
  exact ⟨trivial, fun _ _ => trivial⟩

theorem onQueueJoin_acting (socketId : SocketId) (claimed : Option UserId) (elo : Option ℤ) :
    (onQueueJoin socketId claimed elo).Obeys acting (fun _ _ => True) [] := by
  refine obeys_perform_bind trivial ?_
  intro acting _
  cases acting with
  | none => exact ⟨trivial, fun _ _ => trivial⟩
  | some userId =>
    refine obeys_perform_bind trivial ?_
    intro _ _
    have joins := @joinQueue_acting [(socketId, userId)] socketId userId elo
      (List.mem_singleton.mpr rfl)
    split
    · exact joins
    · split
      · exact joins
      · exact ⟨trivial, fun _ _ => ⟨trivial, fun _ _ => trivial⟩⟩

theorem onOperation_acting (socketId : SocketId) (operation : Operation) {refusal : Prog Unit}
    (impersonal : refusal.Uses Cmd.Impersonal) :
    (onOperation socketId operation refusal).Obeys acting (fun _ _ => True) [] := by
  refine obeys_perform_bind trivial ?_
  intro _ _
  split
  · exact acting_of_impersonal impersonal
  · rename_i acting isTrue
    obtain ⟨rfl, _⟩ := eq_of_truthy isTrue
    exact ⟨List.mem_singleton.mpr rfl, fun _ _ => trivial⟩

theorem onDisconnect_acting (socketId : SocketId) :
    (onDisconnect socketId).Obeys acting (fun _ _ => True) [] := by
  refine obeys_perform_bind trivial ?_
  intro _ _
  split
  · trivial
  · rename_i userId isTrue
    obtain ⟨rfl, _⟩ := eq_of_truthy isTrue
    apply acting_bind_impersonal (clearSession_impersonal socketId userId)
    intro _
    refine obeys_perform_bind trivial ?_
    intro userBattles _
    apply acting_bind_impersonal (startGrace_impersonal userId userBattles)
    intro _
    exact ⟨List.mem_singleton.mpr rfl, fun _ _ => trivial⟩

theorem body_acting (powTen : ℚ → ℚ) (call : Call) :
    (body powTen call).Obeys acting (fun _ _ => True) [] := by
  have refuses (socketId : SocketId) :
      (request (.emit socketId (.error "Not authenticated"))).Uses Cmd.Impersonal :=
    uses_perform trivial
  cases call with
  | authenticate socketId token =>
    exact acting_of_impersonal (onAuthenticate_impersonal socketId token)
  | queueJoin socketId claimed elo => exact onQueueJoin_acting socketId claimed elo
  | queueLeave socketId => exact onOperation_acting socketId _ trivial
  | battleSubmit socketId => exact onOperation_acting socketId _ (refuses socketId)
  | battleForfeit socketId => exact onOperation_acting socketId _ (refuses socketId)
  | spellCast socketId => exact onOperation_acting socketId _ (refuses socketId)
  | disconnect socketId => exact onDisconnect_acting socketId
  | checkReconnection socketId userId =>
    exact acting_of_impersonal (onCheckReconnection_impersonal powTen socketId userId)

variable {verifyToken}

theorem Presented.mono {log : List Event}
    (presented : Presented verifyToken log socketId userId) {later : List Event}
    (grows : log ⊆ later) : Presented verifyToken later socketId userId := by
  rcases presented with ⟨token, moment, payload, member, accepted, same⟩
  exact ⟨token, moment, payload, grows member, accepted, same⟩

theorem log_after :
    (handle verifyToken cmd choice store).2.log = store.log ∨
      (∃ socketId token payload, cmd = .identify socketId token ∧
        verifyToken choice.now token = some payload ∧
        (handle verifyToken cmd choice store).2.log =
          .presented socketId token choice.now :: store.log) ∨
      ∃ socketId userId operation, cmd = .operate socketId userId operation ∧
        (handle verifyToken cmd choice store).2.log =
          .operated socketId userId operation :: store.log := by
  by_cases quiet : cmd.Quiet
  · exact Or.inl (undisturbed_of_quiet quiet).log
  cases cmd with
  | identify socketId token =>
    simp only [handle]
    cases verified : verifyToken choice.now token with
    | none => exact Or.inl rfl
    | some payload => exact Or.inr (Or.inl ⟨socketId, token, payload, rfl, verified, rfl⟩)
  | operate socketId userId operation =>
    exact Or.inr (Or.inr ⟨socketId, userId, operation, rfl, rfl⟩)
  | displace userId existing =>
    rcases @displace_cases store userId existing with unchanged | closed
    · exact Or.inl (congrArg Store.log unchanged)
    · exact Or.inl ((congrArg Store.log closed).trans rfl)
  | unregister =>
    left
    simp only [handle, Store.unregister]
    split <;> rfl
  | register | close | restore => exact Or.inl rfl
  | _ => exact absurd trivial quiet

theorem log_grows :
    store.log ⊆ (handle verifyToken cmd choice store).2.log := by
  rcases @log_after verifyToken cmd store choice with
    same | ⟨_, _, _, _, _, same⟩ | ⟨_, _, _, _, same⟩
  · rw [same]
    exact List.Subset.refl _
  · rw [same]
    exact List.subset_cons_self _ _
  · rw [same]
    exact List.subset_cons_self _ _

variable (verifyToken) in
/-- Identities stand for presented tokens, and every call into a service so far was genuine. -/
structure Acknowledged (store : Store) : Prop where
  identities : ∀ socketId userId, store.userId socketId = some userId →
    Presented verifyToken store.log socketId userId
  genuine : Genuine verifyToken store.log

variable (verifyToken) in
def Valid (store : Store) (known : List (SocketId × UserId)) : Prop :=
  ∀ entry ∈ known, Presented verifyToken store.log entry.1 entry.2

section Step

variable {state : ServerState} {id : ℕ} {cmd : Cmd} {choice : Choice}
  {known : List (SocketId × UserId)}

theorem Acknowledged.identities_after (acknowledged : Acknowledged verifyToken state.store)
    (honest : Honest verifyToken state (.advance id choice))
    (issued : state.issued (.advance id choice : ServerAction) = some cmd) {socketId : SocketId}
    {userId : UserId}
    (after : (handle verifyToken cmd choice state.store).2.userId socketId = some userId) :
    Presented verifyToken (handle verifyToken cmd choice state.store).2.log socketId userId := by
  rcases userId_after after with before | ⟨token, payload, rfl, verified, same⟩ | rfl
  · exact (acknowledged.identities socketId userId before).mono log_grows
  · refine ⟨token, choice.now, payload, ?_, verified, same⟩
    simp [handle, verified, Store.identify]
  · rw [Honest, issued] at honest
    exact honest.mono log_grows

theorem Acknowledged.known_after (acknowledged : Acknowledged verifyToken state.store)
    (honest : Honest verifyToken state (.advance id choice))
    (issued : state.issued (.advance id choice : ServerAction) = some cmd)
    (valid : Valid verifyToken state.store known) : Valid verifyToken state.store
      (acting.after known cmd (handle verifyToken cmd choice state.store).1) := by
  intro entry member
  have learns {socketId : SocketId} {reply : Option UserId}
      (grounded : ∀ userId, reply = some userId →
        Presented verifyToken state.store.log socketId userId)
      (read : entry ∈ learn known socketId reply) :
      Presented verifyToken state.store.log entry.1 entry.2 := by
    cases reply with
    | none => exact valid entry read
    | some userId =>
      rcases List.mem_cons.mp read with rfl | old
      · exact grounded userId rfl
      · exact valid entry old
  cases cmd with
  | identity socketId => exact learns (acknowledged.identities socketId) member
  | unregister socketId => exact learns (acknowledged.identities socketId) member
  | actingUser socketId =>
    refine learns ?_ member
    intro userId acts
    rw [Honest, issued] at honest
    cases identity : truthy (state.store.userId socketId) with
    | none =>
      rcases honest with unclaimed | identified
      · simp [handle, identity, unclaimed] at acts
      · exact absurd identity identified
    | some identified =>
      simp only [handle, identity, Option.some_or, Option.some.injEq] at acts
      subst userId
      exact acknowledged.identities socketId identified (eq_of_truthy identity).1
  | _ => exact valid entry member

theorem Valid.mono {after : Store} (valid : Valid verifyToken store known)
    (grows : store.log ⊆ after.log) : Valid verifyToken after known :=
  fun entry member => (valid entry member).mono grows

theorem Acknowledged.genuine_after (acknowledged : Acknowledged verifyToken state.store)
    (valid : Valid verifyToken state.store known) (allowed : acting.allows known cmd) :
    Genuine verifyToken (handle verifyToken cmd choice state.store).2.log := by
  rcases @log_after verifyToken cmd state.store choice with
    same | ⟨_, _, _, _, _, same⟩ | ⟨socketId, userId, operation, rfl, same⟩
  · rw [same]
    exact acknowledged.genuine
  · rw [same]
    exact acknowledged.genuine
  · rw [same]
    exact ⟨valid (socketId, userId) allowed, acknowledged.genuine⟩

end Step

structure NoNewIdentity (before after : Store) : Prop where
  log : after.log = before.log
  identities : ∀ socketId userId, after.userId socketId = some userId →
    before.userId socketId = some userId

theorem accept_noNewIdentity {call : Call}
    (accepted : accept call store = some after) : NoNewIdentity store after := by
  rcases accept_cases accepted with rfl | ⟨_, _, _, rfl⟩
  · exact ⟨rfl, fun _ _ identified => identified⟩
  · refine ⟨rfl, ?_⟩
    intro _ _ identified
    rw [Store.userId_modify] at identified
    · exact identified
    · exact fun _ => rfl

theorem happen_noNewIdentity {event : Environment}
    (happened : happen event store = some after) : NoNewIdentity store after := by
  cases event with
  | connected other =>
    simp only [happen] at happened
    split at happened
    · cases happened
      refine ⟨rfl, ?_⟩
      intro socketId _ identified
      by_cases same : socketId = other
      · subst other
        simp [Store.userId, SocketState.fresh] at identified
      · simpa [Store.userId, Function.update_of_ne same] using identified
    · cases happened
  | closed =>
    cases happened
    exact ⟨rfl, fun _ _ identified => Store.userId_close.symm.trans identified⟩
  | battlesChanged =>
    cases happened
    exact ⟨rfl, fun _ _ identified => identified⟩

theorem Acknowledged.change (acknowledged : Acknowledged verifyToken store)
    (same : NoNewIdentity store after) : Acknowledged verifyToken after := by
  refine ⟨?_, ?_⟩
  · intro socketId userId identified
    rw [same.log]
    exact acknowledged.identities socketId userId (same.identities socketId userId identified)
  · rw [same.log]
    exact acknowledged.genuine

/-- In an honest run a service is called for a user on behalf of a socket only if it has presented a
token of the user. -/
theorem calls_are_genuine {powTen : ℚ → ℚ} {battle : Battle.Store} {state : ServerState}
    (reached : (server verifyToken powTen).Reaches (Honest verifyToken) (freshServer battle)
      state) : Genuine verifyToken state.store.log := by
  refine (reached.related (Acknowledged verifyToken) (fun store _ _ => Valid verifyToken store)
    (fun _ => rfl) (fun _ call => body_acting powTen call) ?_ ?_ ?_ ?_ ?_).1.genuine
  · intro _ _ _ _ _ accepted acknowledged
    have same := accept_noNewIdentity accepted
    refine ⟨acknowledged.change same, fun _ _ _ valid => valid.mono fun _ member => ?_⟩
    rwa [same.log]
  · intro _ _ _ _ happened acknowledged
    have same := happen_noNewIdentity happened
    refine ⟨acknowledged.change same, fun _ _ _ _ valid => valid.mono fun _ member => ?_⟩
    rwa [same.log]
  · intro _ _ _ _ _ _ honest issued allowed acknowledged valid
    exact ⟨trivial, ⟨fun _ _ => acknowledged.identities_after honest issued,
      acknowledged.genuine_after valid allowed⟩,
      (acknowledged.known_after honest issued valid).mono log_grows,
      fun _ _ _ _ valid => valid.mono log_grows⟩
  · exact ⟨by rintro _ _ ⟨⟩, trivial⟩
  · rintro _ _ _ ⟨⟩

end Identity

def still : Choice where
  now := 0
  rooms := []
  users := []
  battle := default

/-- A socket that has presented no token joins the queue as any user. -/
theorem stranger_joins_queue :
    ∃ state, (server (fun _ _ => none) fun _ => 1).Reaches anyStep
        (freshServer (Battle.freshServer fun _ => none).store) state ∧
      ¬Genuine (fun _ _ => none) state.store.log := by
  have run : ∃ state, (server (fun _ _ => none) fun _ => 1).Reaches anyStep
      (freshServer (Battle.freshServer fun _ => none).store) state ∧
        state.store.log = [.operated 0 "alice" (.addToQueue 1000)] := by
    apply exists_reaches [0] (fun _ _ => true)
      [.happen (.connected 0), .start 0 (.queueJoin 0 (some "alice") none), .advance 0 still,
        .advance 0 still, .advance 0 still, .advance 0 still, .advance 0 still]
    · intro state _ _ _
      trivial
    · intro _ _
      rfl
    · decide
  rcases run with ⟨state, reached, log⟩
  refine ⟨state, reached, ?_⟩
  rw [log]
  rintro ⟨⟨_, _, _, member, _⟩, _⟩
  exact List.not_mem_nil member

def acceptAlice (_now : ℤ) (token : String) : Option JWTPayload :=
  if token = "alice's token" then some ⟨"alice", "Alice", none, by decide⟩ else none

/-- A check that honest steps pass: nobody names a user, and nobody is reconnected. -/
def namesNobody (state : ServerState) (action : ServerAction) : Bool :=
  match state.issued action with
  | some (.actingUser _ claimed) => (truthy claimed).isNone
  | some (.restore _ _) => false
  | _ => true

theorem authenticated_user_joins_queue :
    ∃ state, (server acceptAlice fun _ => 1).Reaches (Honest acceptAlice)
        (freshServer (Battle.freshServer fun _ => none).store) state ∧
      state.store.log = [.operated 0 "alice" (.addToQueue 1000),
        .presented 0 "alice's token" 0] ∧ Genuine acceptAlice state.store.log := by
  apply exists_reaches_and [0, 1] namesNobody
    [.happen (.connected 0), .start 0 (.authenticate 0 "alice's token"), .advance 0 still,
      .advance 0 still, .advance 0 still, .advance 0 still, .advance 0 still,
      .start 1 (.queueJoin 0 none none), .advance 1 still, .advance 1 still, .advance 1 still,
      .advance 1 still, .advance 1 still]
  · intro state _ _ checked
    simp only [namesNobody] at checked
    simp only [Honest]
    split at checked
    · exact Or.inl (Option.isNone_iff_eq_none.mp checked)
    · cases checked
    · trivial
  · intro _ _
    rfl
  · decide
  · intro _ reached
    exact calls_are_genuine reached

end CodeClash.Session
