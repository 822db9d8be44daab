import CodeClash.Api.Outcome

/-!
# The hit points of an API battle

Healing and damage read the hit points of a side, compute new ones and write these. In between other
calls may write, and the hash may be deleted and come back with one field only. All calls keep to
one contract: what a call writes is in the range if what it has read is. A missing field is read as
zero.
-/

namespace CodeClash.Api.HitPoints

open Async Events Function
open Judge (Side parsePrinted leadingInteger)

inductive Call where
  | handler (call : Events.Call)
  | applySpellEffect (roomId : RoomId) (spellType : SpellType) (casterId targetId : UserId)
  | endBattle (roomId : RoomId) (loserId : UserId) (reason : EndReason)

def Call.program (powTen : ℚ → ℚ) : Call → Events.Prog Unit
  | .handler call => call.program powTen
  | .applySpellEffect roomId spellType casterId targetId => do
      let _ ← Events.applySpellEffect powTen roomId spellType casterId targetId
      return ()
  | .endBattle roomId loserId reason => Events.endBattle powTen roomId loserId reason

inductive Event where
  | outside (event : Events.Event)
  | initializeBattleState (roomId : RoomId) (player1Id player2Id : UserId)

/-- The store after `initializeBattleState` has written the fields of a new battle. -/
def initializeBattleState (roomId : RoomId) (player1Id player2Id : UserId)
    (store : Events.Store) : Events.Store :=
  let created := Judge.initializeBattleState player1Id player2Id store.clock
  store.writeHash roomId (fun _ => ⟨created.player1.hp, created.player2.hp⟩)
    fun fields => { fields with status := some .waiting }

def accept (call : Call) (store : Events.Store) : Option Events.Store :=
  match call with
  | .handler call => Events.accept call store
  | _ => some store

def happen (event : Event) (store : Events.Store) : Option Events.Store :=
  match event with
  | .outside event => Events.happen event store
  | .initializeBattleState roomId player1Id player2Id =>
    some (initializeBattleState roomId player1Id player2Id store)

def server (powTen : ℚ → ℚ) : Server Events.signature Events.Store Call Events.Choice Event where
  handle := Events.handle
  accept := accept
  body _ call := (call.program powTen).run >>= fun _ => .done ()
  happen := happen

/-- The number is an integer between 0 and 100, and its text has these digits. -/
def InRange (hp : ℚ) : Prop := ∃ n : ℤ, 0 ≤ n ∧ n ≤ 100 ∧ hp = n

def field (hash : Hash) : Side → Option ℚ
  | .player1 => hash.player1Hp
  | .player2 => hash.player2Hp

def RoomInRange (roomId : RoomId) (store : Events.Store) : Prop :=
  ∀ hash side hp, store.base.hashes roomId = some hash → field hash side = some hp → InRange hp

variable {n : ℤ}

theorem leadingInteger_intCast (nonneg : 0 ≤ n) (short : n < 10 ^ 21) :
    leadingInteger n = n := by
  have plain : ¬((n : ℚ) ≠ 0 ∧ ((n : ℚ) < 1 / 10 ^ 6 ∨ (10 : ℚ) ^ 21 ≤ n)) := by
    rintro ⟨nonzero, small | large⟩
    · have positive : (1 : ℚ) ≤ n := by
        have := Int.cast_ne_zero.mp nonzero
        exact_mod_cast (by omega : 1 ≤ n)
      exact absurd (small.trans (by norm_num)) (not_lt.mpr positive)
    · exact absurd short (not_lt.mpr (by exact_mod_cast large))
  rw [leadingInteger, if_neg plain, Int.floor_intCast]

theorem parsePrinted_intCast (nonneg : 0 ≤ n) (short : n < 10 ^ 21) :
    parsePrinted n = n := by
  rw [parsePrinted, if_neg (not_lt.mpr (Int.cast_nonneg nonneg)),
    leadingInteger_intCast nonneg short]

theorem parseHp_bounds {hp : Option ℚ} (stored : ∀ value, hp = some value → InRange value) :
    0 ≤ parseHp hp ∧ parseHp hp ≤ 100 := by
  have read : InRange (hp.getD 0) := by
    cases hp with
    | none => exact ⟨0, le_rfl, by norm_num, by norm_num⟩
    | some value => exact stored value rfl
  rcases read with ⟨_, nonneg, bounded, isInteger⟩
  rw [parseHp, isInteger, parsePrinted_intCast nonneg (by omega)]
  exact ⟨nonneg, bounded⟩

def allowsCmd (roomId : RoomId) : Events.Cmd → Prop
  | .setHp room _ hp => room = roomId → 0 ≤ hp ∧ hp ≤ 100
  | _ => True

def expectsReply (roomId : RoomId) : (cmd : Events.Cmd) → cmd.Reply → Prop
  | .battle _ (.hGetHp room _), hp => room = roomId → ∀ value, hp = some value → InRange value
  | _, _ => True

/-- A call writes hit points of the room in the range if it has read such ones. -/
def contract (roomId : RoomId) : Protocol Events.signature Unit where
  allows _ := allowsCmd roomId
  expects _ := expectsReply roomId
  after _ _ _ := ()

section Calls

open Throwing

variable {roomId : RoomId} {powTen : ℚ → ℚ} {α : Type}

theorem plain_allowed {cmd : Events.Cmd} (plain : cmd.Plain) : allowsCmd roomId cmd := by
  cases cmd with
  | setHp => exact plain.elim
  | _ => trivial

variable {room : RoomId}

theorem ofBattle_keeps (program : Api.Prog α) :
    Returns (contract roomId) () (fun _ => True) (ofBattle room program) := by
  have any : program.Uses fun _ => True := Program.uses_of_forall (fun _ => trivial) program
  have battles : (within room program).Uses fun cmd : Events.Cmd =>
      ∃ room inner, cmd = .battle room inner := any.embed fun inner _ => ⟨room, inner, rfl⟩
  refine returns_of_uses ?_ (fun _ _ _ => rfl) (uses_ask battles)
  rintro _ ⟨_, _, rfl⟩
  trivial

theorem attempt_keeps {program : Program Events.signature (Except Failure α)}
    (uses : program.Uses Cmd.Plain) :
    Returns (contract roomId) () (fun _ => True) (attempt id program) :=
  returns_of_uses (fun _ => plain_allowed) (fun _ _ _ => rfl) (uses_attempt uses)

theorem setHp_keeps {side : Side} {hp : ℤ} (bounded : room = roomId → 0 ≤ hp ∧ hp ≤ 100) :
    Returns (contract roomId) () (fun _ => True) (perform (.setHp room side hp)) :=
  ⟨bounded, fun _ _ => ⟨rfl, fun _ _ => trivial⟩⟩

theorem contract_covers : Covers powTen (contract roomId) () (fun _ _ => True)
    fun room hp => room = roomId → 0 ≤ hp ∧ hp ≤ 100 where
  allows _ := plain_allowed
  stays _ _ _ := rfl
  found _ := returns_bind (attempt_keeps (Program.uses_perform trivial)) fun _ _ =>
    returns_pure fun _ _ _ => trivial
  active _ := (attempt_keeps (Program.uses_perform trivial)).mono fun _ _ ends =>
    ⟨ends.1, fun _ _ _ _ => trivial⟩
  startsGrace _ _ _ _ := ⟨trivial, fun _ _ => ⟨rfl, fun _ _ => trivial⟩⟩
  ends _ _ _ _ := ofBattle_keeps _
  ticks _ _ := ofBattle_keeps _
  reads room side := by
    refine ⟨trivial, fun hp expected => ⟨rfl, ?_⟩⟩
    rintro _ ⟨⟩ same
    exact parseHp_bounds (expected same)
  heals room side hp read := setHp_keeps fun same => by
    rcases read same with ⟨_, _⟩
    exact ⟨le_min (by norm_num) (by omega), min_le_left _ _⟩
  hits room side hp read := setHp_keeps fun same => by
    rcases read same with ⟨_, _⟩
    exact ⟨le_max_left _ _, max_le (by norm_num) (by omega)⟩

theorem program_keeps (call : Call) :
    Returns (contract roomId) () (fun _ => True) (call.program powTen) := by
  cases call with
  | handler call => exact contract_covers.program call (fun _ _ _ => trivial) fun _ _ => trivial
  | applySpellEffect _ spellType =>
    exact returns_bind (contract_covers.applySpellEffect spellType trivial) fun _ _ =>
      returns_pure trivial
  | endBattle => exact ofBattle_keeps _

theorem body_obeys (roomId : RoomId) (id : ℕ) (call : Call) :
    ((server powTen).body id call).Obeys (contract roomId) (fun _ _ => True) () :=
  Program.obeys_bind.mpr ((program_keeps call).mono fun _ _ _ => trivial)

end Calls

section Store

variable {roomId room : RoomId} {store next : Events.Store}

theorem RoomInRange.congr (inRange : RoomInRange roomId store)
    (hashes : next.base.hashes roomId = store.base.hashes roomId) : RoomInRange roomId next := by
  rw [RoomInRange, hashes]
  exact inRange

theorem RoomInRange.dropHash (inRange : RoomInRange roomId store) :
    RoomInRange roomId (store.dropHash room) := by
  by_cases same : roomId = room
  · intro _ _ _ found _
    subst same
    have dropped : (store.dropHash roomId).base.hashes roomId = none := update_self ..
    cases dropped.symm.trans found
  · exact inRange.congr (update_of_ne same ..)

theorem RoomInRange.writeHash (inRange : RoomInRange roomId store) {hash : Hash → Hash}
    {fields : Fields → Fields}
    (written : room = roomId → ∀ old side hp, field (hash old) side = some hp →
      InRange hp ∨ field old side = some hp) :
    RoomInRange roomId (store.writeHash room hash fields) := by
  by_cases same : roomId = room
  · subst same
    intro new side hp found isField
    cases (update_self roomId _ _).symm.trans found
    rcases written rfl _ side hp isField with new | old
    · exact new
    · cases stored : store.base.hashes roomId with
      | none =>
        rw [stored] at old
        cases side <;> cases old
      | some hash =>
        rw [stored] at old
        exact inRange hash side hp stored old
  · exact inRange.congr (update_of_ne same ..)

theorem field_setHp {hash : Hash} {hp : ℤ} {side other : Side} {value : ℚ}
    (isField : field (setHp hash hp side) other = some value) :
    value = hp ∨ field hash other = some value := by
  cases side <;> cases other <;> simp_all [field, setHp, eq_comm]

theorem RoomInRange.handle (inRange : RoomInRange roomId store) {cmd : Events.Cmd}
    (allowed : allowsCmd roomId cmd) (choice : Events.Choice) :
    RoomInRange roomId (Events.handle cmd choice store).2 := by
  cases cmd with
  | battle _ cmd =>
    cases cmd with
    | delHash => exact inRange.dropHash
    | completeMatch =>
      refine inRange.congr ?_
      simp only [Events.handle, handleBattle, Api.handle]
      split <;> rfl
    | updateUser =>
      refine inRange.congr ?_
      simp only [Events.handle, handleBattle, Api.handle]
      split <;> rfl
    | _ => exact inRange
  | setHp _ _ hp =>
    refine inRange.writeHash fun same old other value isField => ?_
    rcases field_setHp isField with rfl | kept
    · exact .inl ⟨hp, (allowed same).1, (allowed same).2, rfl⟩
    · exact .inr kept
  | setDisconnected => exact inRange.writeHash fun _ _ _ _ => .inr
  | setShield => exact inRange.writeHash fun _ _ _ _ => .inr
  | updateSpell =>
    refine inRange.congr ?_
    simp only [Events.handle]
    split <;> rfl
  | _ => exact inRange

theorem RoomInRange.expects (inRange : RoomInRange roomId store) (cmd : Events.Cmd)
    (choice : Events.Choice) : expectsReply roomId cmd (Events.handle cmd choice store).1 := by
  cases cmd with
  | battle _ cmd =>
    cases cmd with
    | hGetHp _ side =>
      rintro rfl hp isRead
      rcases Option.bind_eq_some_iff.mp isRead with ⟨hash, found, isField⟩
      refine inRange hash side hp found ?_
      cases side <;> exact isField
    | _ => trivial
  | _ => trivial

theorem RoomInRange.accept (inRange : RoomInRange roomId store) {call : Call}
    (accepted : accept call store = some next) : RoomInRange roomId next := by
  cases call with
  | handler call =>
    cases call with
    | graceElapsed =>
      rcases Option.ite_none_right_eq_some.mp accepted with ⟨_, ⟨⟩⟩
      exact inRange
    | timerTick =>
      rcases Option.ite_none_right_eq_some.mp accepted with ⟨_, ⟨⟩⟩
      exact inRange
    | _ =>
      cases accepted
      exact inRange
  | _ =>
    cases accepted
    exact inRange

theorem RoomInRange.initialize (inRange : RoomInRange roomId store)
    (player1Id player2Id : UserId) :
    RoomInRange roomId (initializeBattleState room player1Id player2Id store) := by
  refine inRange.writeHash fun _ old side hp isField => .inl ⟨100, by norm_num, le_rfl, ?_⟩
  cases side <;> cases isField <;> norm_num

theorem RoomInRange.happen (inRange : RoomInRange roomId store) {event : Event}
    (happened : happen event store = some next) : RoomInRange roomId next := by
  cases event with
  | outside event =>
    cases event with
    | passes =>
      cases happened
      exact inRange
    | expires =>
      cases happened
      exact inRange.dropHash
  | initializeBattleState _ player1Id player2Id =>
    cases happened
    exact inRange.initialize player1Id player2Id

end Store

/-- The hit points of a room that `initializeBattleState` creates are integers between 0 and 100 at
every moment of every run. -/
theorem hit_points_in_range (powTen : ℚ → ℚ)
    {initial state : State Events.signature Events.Store Call} {roomId : RoomId}
    (unstarted : ∀ id, initial.processes id = none)
    (uncreated : initial.store.base.hashes roomId = none)
    (reached : (server powTen).Reaches Server.anyStep initial state) :
    RoomInRange roomId state.store := by
  refine reached.obeys_invariant unstarted (fun id call => body_obeys roomId id call)
    ?_ ?_ ?_ ?_
  · exact fun _ _ _ accepted inRange => inRange.accept accepted
  · exact fun _ _ _ happened inRange => inRange.happen happened
  · exact fun state _ choice cmd _ _ _ allowed inRange =>
      ⟨inRange.expects cmd choice, inRange.handle allowed choice⟩
  · intro _ _ _ found
    rw [uncreated] at found
    cases found

def uncreated : State Events.signature Events.Store Call where
  store := { sampleServer.store with base := { sampleStore 100 100 with hashes := fun _ => none } }
  processes _ := none

/-- The battle ends after a spell has read the hit points. The spell creates the hash again. -/
def lateDamage : List (Action Call Events.Choice Event) :=
  [.happen (.initializeBattleState "room" "ann" "bob"),
    .start 0 (.applySpellEffect "room" .damage "ann" "bob"), .advance 0 ⟨false⟩,
    .advance 0 ⟨false⟩, .start 1 (.endBattle "room" "bob" .forfeit)] ++
    List.replicate 10 (.advance 1 ⟨false⟩) ++ [.advance 0 ⟨false⟩]

theorem late_damage_in_range :
    ∃ state, (server fun _ => 1).Reaches Server.anyStep uncreated state ∧
      state.store.base.hashes "room" = some ⟨none, some 85⟩ ∧ RoomInRange "room" state.store := by
  apply Server.exists_reaches_and [0, 1] (fun _ _ => true) lateDamage
  · intro _ _ _ _
    trivial
  · intro _ _
    rfl
  · decide +kernel
  · intro _ reached
    exact hit_points_in_range _ (fun _ => rfl) rfl reached

end CodeClash.Api.HitPoints
