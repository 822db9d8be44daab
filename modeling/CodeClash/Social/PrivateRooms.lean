import CodeClash.Async.Services
import CodeClash.Async.System
import Mathlib.Algebra.Order.Floor.Ring
import Mathlib.Data.List.Nodup
import Mathlib.Data.Rat.Floor

/-!
# Private rooms

`createPrivateRoom`, `joinPrivateRoom` and `leavePrivateRoom` of
`apps/api/src/services/socialLayerService.ts`. A room is read, changed and written as a whole, so a
call may write a copy that is out of date. The announcements to the sockets are left out. A room may
expire at any time.
-/

namespace CodeClash.Social

open Async Throwing Function

abbrev UserId := String

abbrev RoomId := String

abbrev RoomCode := String

structure PrivateRoom where
  id : RoomId
  roomCode : RoomCode
  createdBy : UserId
  maxPlayers : ℚ
  currentPlayers : List UserId
  spectators : List UserId
deriving DecidableEq, Repr

/-- `settings.maxPlayers || 2` -/
def maxPlayersOf (maxPlayers : Option ℚ) : ℚ :=
  if maxPlayers.getD 0 = 0 then 2 else maxPlayers.getD 0

structure Settings where
  maxPlayers : Option ℚ
  positive : 1 ≤ maxPlayersOf maxPlayers

inductive SocialError where
  | error (message : String)
  | rejected
deriving DecidableEq, Repr

inductive Cmd where
  | get (roomCode : RoomCode)
  | setEx (roomCode : RoomCode) (room : PrivateRoom)
  | del (roomCode : RoomCode)

abbrev Cmd.Value : Cmd → Type
  | .get _ => Option PrivateRoom
  | _ => Unit

abbrev redis : Services where
  Sense := Empty
  Sensed := Empty.elim
  Cmd := Cmd
  Value := Cmd.Value
  Failure := SocialError

abbrev call (cmd : Cmd) : redis.Prog cmd.Value := @Services.call redis cmd

def PrivateRoom.join (room : PrivateRoom) (userId : UserId) : PrivateRoom :=
  if userId ∈ room.currentPlayers then room
  else { room with currentPlayers := room.currentPlayers ++ [userId] }

def PrivateRoom.leave (room : PrivateRoom) (userId : UserId) : PrivateRoom :=
  { room with
    currentPlayers := room.currentPlayers.filter (· ≠ userId)
    spectators := room.spectators.filter (· ≠ userId) }

def joinPrivateRoom (userId : UserId) (roomCode : RoomCode) : redis.Prog PrivateRoom := do
  match ← call (.get roomCode) with
  | none => throw (.error "Room not found or expired")
  | some room =>
    if room.maxPlayers ≤ room.currentPlayers.length then throw (.error "Room is full")
    else
      call (.setEx roomCode (room.join userId))
      return room.join userId

def leavePrivateRoom (userId : UserId) (roomCode : RoomCode) : Program redis.signature Unit :=
  Services.caught () do
    match ← call (.get roomCode) with
    | none => return
    | some room =>
      if (room.leave userId).currentPlayers = [] ∧ (room.leave userId).spectators = [] then
        call (.del roomCode)
      else call (.setEx roomCode (room.leave userId))

def createPrivateRoom (roomId : RoomId) (roomCode : RoomCode) (createdBy : UserId)
    (settings : Settings) : redis.Prog PrivateRoom := do
  let room : PrivateRoom :=
    ⟨roomId, roomCode, createdBy, maxPlayersOf settings.maxPlayers, [createdBy], []⟩
  call (.setEx roomCode room)
  let _ ← joinPrivateRoom createdBy roomCode
  return room

abbrev Store := RoomCode → Option PrivateRoom

def backend : redis.Backend Store Bool where
  sensed question _ := question.elim
  failure? _ fails := if fails then some .rejected else none
  value
    | .get roomCode, _, store => store roomCode
    | .setEx .., _, _ => ()
    | .del _, _, _ => ()
  write
    | .get _, _, store => store
    | .setEx roomCode room, _, store => update store roomCode (some room)
    | .del roomCode, _, store => update store roomCode none

inductive Call where
  | create (roomId : RoomId) (roomCode : RoomCode) (createdBy : UserId)
  | join (userId : UserId) (roomCode : RoomCode)
  | leave (userId : UserId) (roomCode : RoomCode)

/-- The calls for rooms, each of which is created with settings of its own. -/
def server (settings : RoomId → Settings) : Server redis.signature Store Call Bool RoomCode where
  handle := backend.handle
  accept _ store := some store
  body _
    | .create roomId roomCode createdBy =>
      (createPrivateRoom roomId roomCode createdBy (settings roomId)).run >>= fun _ => .done ()
    | .join userId roomCode => (joinPrivateRoom userId roomCode).run >>= fun _ => .done ()
    | .leave userId roomCode => leavePrivateRoom userId roomCode
  happen roomCode store := some (update store roomCode none)

variable {settings : RoomId → Settings} {room : PrivateRoom}

/-- A room with the capacity that it was created with, and no more players than that. -/
structure Fits (settings : RoomId → Settings) (room : PrivateRoom) : Prop where
  created : room.maxPlayers = maxPlayersOf (settings room.id).maxPlayers
  nodup : room.currentPlayers.Nodup
  length_le : room.currentPlayers.length ≤ ⌈room.maxPlayers⌉

/-- Only rooms that fit are written, as long as only such rooms are read. -/
def fitting (settings : RoomId → Settings) : Protocol redis.signature Unit where
  allows
    | _, .inr (.setEx _ room) => Fits settings room
    | _, _ => True
  expects
    | _, .inr (.get _), answer => ∀ room, answer = .ok (some room) → Fits settings room
    | _, _, _ => True
  after _ _ _ := ()

theorem Fits.join (fits : Fits settings room) (userId : UserId)
    (free : ¬room.maxPlayers ≤ room.currentPlayers.length) : Fits settings (room.join userId) := by
  rw [PrivateRoom.join]
  split
  · exact fits
  · rename_i absent
    refine ⟨fits.created, ?_, ?_⟩
    · exact fits.nodup.append (List.nodup_singleton userId) (List.disjoint_singleton.mpr absent)
    · rw [List.length_append]
      exact Int.lt_ceil.mpr (not_le.mp free)

theorem Fits.leave (fits : Fits settings room) (userId : UserId) :
    Fits settings (room.leave userId) := by
  refine ⟨fits.created, fits.nodup.filter _, le_trans ?_ fits.length_le⟩
  exact Int.ofNat_le.mpr (List.length_filter_le _ _)

theorem get_fitting (roomCode : RoomCode) : Returns (fitting settings) ()
    (fun found => ∀ room, found = some room → Fits settings room) (call (.get roomCode)) := by
  refine ⟨trivial, fun answer expected => ⟨rfl, ?_⟩⟩
  rintro _ rfl room rfl
  exact expected room rfl

theorem setEx_fitting (roomCode : RoomCode) (fits : Fits settings room) :
    Returns (fitting settings) () (fun _ => True) (call (.setEx roomCode room)) :=
  ⟨fits, fun _ _ => ⟨rfl, fun _ _ => trivial⟩⟩

variable {α : Type} {store : Store}

theorem returns_throw {Result : α → Prop} (error : SocialError) :
    Returns (fitting settings) () Result (throw error : redis.Prog α) := by
  refine ⟨rfl, ?_⟩
  rintro _ ⟨⟩

theorem obeys_of_returns {β : Type} {program : redis.Prog α}
    (returns : Returns (fitting settings) () (fun _ => True) program)
    (read : Except SocialError α → β) :
    (program.run >>= fun outcome => .done (read outcome)).Obeys (fitting settings)
      (fun _ _ => True) () :=
  Program.obeys_bind.mpr (returns.mono fun _ _ _ => trivial)

theorem joinPrivateRoom_fitting (userId : UserId) (roomCode : RoomCode) :
    Returns (fitting settings) () (fun _ => True) (joinPrivateRoom userId roomCode) := by
  refine returns_bind (get_fitting roomCode) fun found fits => ?_
  cases found with
  | none => exact returns_throw _
  | some room =>
    simp only
    split
    · exact returns_throw _
    · rename_i free
      exact returns_bind (setEx_fitting roomCode ((fits room rfl).join userId free))
        fun _ _ => returns_pure trivial

theorem leavePrivateRoom_fitting (userId : UserId) (roomCode : RoomCode) :
    (leavePrivateRoom userId roomCode).Obeys (fitting settings) (fun _ _ => True) () := by
  refine obeys_of_returns (returns_bind (get_fitting roomCode) fun found fits => ?_) _
  cases found with
  | none => exact returns_pure trivial
  | some room =>
    simp only
    split
    · exact ⟨trivial, fun _ _ => ⟨rfl, fun _ _ => trivial⟩⟩
    · exact setEx_fitting roomCode ((fits room rfl).leave userId)

theorem createPrivateRoom_fitting (roomId : RoomId) (roomCode : RoomCode) (createdBy : UserId) :
    Returns (fitting settings) () (fun _ => True)
      (createPrivateRoom roomId roomCode createdBy (settings roomId)) := by
  refine returns_bind (setEx_fitting roomCode ⟨rfl, List.nodup_singleton _, ?_⟩) fun _ _ => ?_
  · exact Int.one_le_ceil_iff.mpr (zero_lt_one.trans_le (settings roomId).positive)
  · exact returns_bind (joinPrivateRoom_fitting createdBy roomCode) fun _ _ => returns_pure trivial

theorem body_fitting (id : ℕ) (call : Call) :
    ((server settings).body id call).Obeys (fitting settings) (fun _ _ => True) () := by
  cases call with
  | create roomId roomCode createdBy =>
    exact obeys_of_returns (createPrivateRoom_fitting roomId roomCode createdBy) _
  | join userId roomCode => exact obeys_of_returns (joinPrivateRoom_fitting userId roomCode) _
  | leave userId roomCode => exact leavePrivateRoom_fitting userId roomCode

def AllFit (settings : RoomId → Settings) (store : Store) : Prop :=
  ∀ roomCode room, store roomCode = some room → Fits settings room

theorem AllFit.update (fits : AllFit settings store) (roomCode : RoomCode)
    {found : Option PrivateRoom} (own : ∀ room, found = some room → Fits settings room) :
    AllFit settings (update store roomCode found) := by
  intro other room stored
  by_cases same : other = roomCode
  · rw [same, update_self] at stored
    exact own room stored
  · rw [update_of_ne same] at stored
    exact fits other room stored

theorem handle_fitting {cmd : redis.signature.Cmd} {fails : Bool}
    (allowed : (fitting settings).allows () cmd) (fits : AllFit settings store) :
    (fitting settings).expects () cmd (backend.handle cmd fails store).1 ∧
      AllFit settings (backend.handle cmd fails store).2 := by
  rcases cmd with question | cmd
  · exact question.elim
  · cases fails with
    | true =>
      refine ⟨?_, fits⟩
      cases cmd with
      | get => rintro _ ⟨⟩
      | setEx => trivial
      | del => trivial
    | false =>
      cases cmd with
      | get roomCode =>
        refine ⟨?_, fits⟩
        intro room answered
        exact fits roomCode room (Except.ok.inj answered)
      | setEx roomCode =>
        refine ⟨trivial, fits.update roomCode ?_⟩
        rintro _ ⟨⟩
        exact allowed
      | del roomCode => exact ⟨trivial, fits.update roomCode (by rintro _ ⟨⟩)⟩

/-- In every run the players of a stored room are different users, and there are no more of them
than the capacity of the room, rounded up. -/
theorem stored_room_fits (settings : RoomId → Settings)
    {state : State redis.signature Store Call}
    (reached : (server settings).Reaches Server.anyStep ⟨fun _ => none, fun _ => none⟩ state)
    {roomCode : RoomCode} {room : PrivateRoom} (stored : state.store roomCode = some room) :
    room.maxPlayers = maxPlayersOf (settings room.id).maxPlayers ∧ room.currentPlayers.Nodup ∧
      room.currentPlayers.length ≤ ⌈room.maxPlayers⌉ := by
  have fits : AllFit settings state.store := by
    refine reached.obeys_invariant (fun _ => rfl) body_fitting
      ?_ ?_ (fun _ _ _ _ _ _ _ allowed => handle_fitting allowed) (by rintro _ _ ⟨⟩)
    · rintro _ _ _ ⟨⟩ fits
      exact fits
    · rintro expired _ _ ⟨⟩ fits
      exact fits.update expired (by rintro _ ⟨⟩)
  rcases fits roomCode room stored with ⟨created, nodup, length_le⟩
  exact ⟨created, nodup, length_le⟩

def halved : Settings := ⟨some (3 / 2), by decide +kernel⟩

def couple : Settings := ⟨none, by decide +kernel⟩

def fill : List (Action Call Bool RoomCode) :=
  [.start 0 (.create "r" "ABC123" "u"), .advance 0 false, .advance 0 false, .advance 0 false,
    .start 1 (.join "v" "ABC123"), .advance 1 false, .advance 1 false]

theorem halved_overfilled : ∃ state, (server fun _ => halved).Reaches Server.anyStep
    ⟨fun _ => none, fun _ => none⟩ state ∧ (state.store "ABC123").any (fun room =>
      room.maxPlayers < room.currentPlayers.length) = true :=
  Server.exists_reaches [0, 1] (fun _ _ => true) fill (fun _ _ _ _ => trivial) (fun _ _ => rfl)
    (by decide +kernel)

theorem stored_room_fits_couple : ∃ room : PrivateRoom, room.currentPlayers = ["u", "v"] ∧
    room.maxPlayers = 2 ∧ room.currentPlayers.Nodup ∧
      room.currentPlayers.length ≤ ⌈room.maxPlayers⌉ := by
  rcases @Server.exists_reaches _ _ _ _ _ (server fun _ => couple) Server.anyStep
    ⟨fun _ => none, fun _ => none⟩ [0, 1] (fun _ _ => true) fill
    (fun state => state.store "ABC123" = some ⟨"r", "ABC123", "u", 2, ["u", "v"], []⟩) _
    (fun _ _ _ _ => trivial) (fun _ _ => rfl) (by decide +kernel) with ⟨state, reached, stored⟩
  exact ⟨_, rfl, rfl, (stored_room_fits (fun _ => couple) reached stored).2⟩

end CodeClash.Social
