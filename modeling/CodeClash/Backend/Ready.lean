import Mathlib.Data.Int.Notation
import Mathlib.Logic.Function.Basic

/-!
# Ready players of a private room

`setPlayerReady` of `packages/backend/src/services/private-room.service.ts` with the methods of
`packages/backend/src/models/private-room.model.ts`. The commands of Redis and the database do not
fail. What the countdown does is left out: `starts` says that `startBattleCountdown` is called.
-/

namespace CodeClash.Backend

inductive RoomState where
  | waiting | ready | active | ended
deriving DecidableEq

structure PrivateRoom where
  creatorId : String
  guestId : Option String
  state : RoomState
  startedAt : Option ℤ
  creatorReady : Bool
  guestReady : Bool
deriving DecidableEq

namespace PrivateRoom

def checkBothReady (room : PrivateRoom) (now : ℤ) : PrivateRoom :=
  if room.creatorReady && room.guestReady && room.state = .ready then
    { room with state := .active, startedAt := some now }
  else room

def setCreatorReady (room : PrivateRoom) (ready : Bool) (now : ℤ) : PrivateRoom :=
  { room with creatorReady := ready }.checkBothReady now

def setGuestReady (room : PrivateRoom) (ready : Bool) (now : ℤ) : PrivateRoom :=
  { room with guestReady := ready }.checkBothReady now

end PrivateRoom

abbrev PrivateRooms := String → Option PrivateRoom

structure Readied where
  room : PrivateRoom
  bothReady : Bool
  starts : Bool
deriving DecidableEq

def readied (room : PrivateRoom) : Readied where
  room := room
  bothReady := room.creatorReady && room.guestReady
  starts := room.creatorReady && room.guestReady && room.state = .ready

def setPlayerReady (rooms : PrivateRooms) (roomId userId : String) (now : ℤ) :
    Except String Readied :=
  match rooms roomId with
  | none => .error "Room not found"
  | some room =>
    if userId = room.creatorId then .ok (readied (room.setCreatorReady true now))
    else if some userId = room.guestId then .ok (readied (room.setGuestReady true now))
    else .error "User not in this room"

structure ReadyCall where
  userId : String
  now : ℤ
deriving DecidableEq

def readyCalls (roomId : String) : PrivateRooms → List ReadyCall → List Readied
  | _, [] => []
  | rooms, call :: calls =>
    match setPlayerReady rooms roomId call.userId call.now with
    | .error _ => readyCalls roomId rooms calls
    | .ok done => done :: readyCalls roomId (Function.update rooms roomId (some done.room)) calls

/-- A call starts the countdown if and only if it is the first after which both are ready. -/
def StartsOnce (calls : List Readied) : Prop :=
  ∀ earlier done later, calls = earlier ++ done :: later →
    (done.starts = true ↔ done.bothReady = true ∧ ∀ call ∈ earlier, call.bothReady = false)

/-- One of the two is not ready and does not call. -/
def PrivateRoom.Waits (room : PrivateRoom) (calls : List ReadyCall) : Prop :=
  (room.creatorReady = false ∧ ∀ call ∈ calls, call.userId ≠ room.creatorId) ∨
    (room.guestReady = false ∧
      ∀ call ∈ calls, some call.userId = room.guestId → call.userId = room.creatorId)

variable {rooms : PrivateRooms} {roomId userId : String} {room : PrivateRoom} {now : ℤ}
  {calls : List ReadyCall}

/-- The state has left `ready` when the service looks at it. -/
theorem checkBothReady_starts (room : PrivateRoom) (now : ℤ) :
    (readied (room.checkBothReady now)).starts = false := by
  unfold PrivateRoom.checkBothReady
  split
  · simp [readied]
  · next notBoth => exact Bool.eq_false_iff.mpr notBoth

/-- The call of a player marks that player and starts nothing. -/
structure Marks (room : PrivateRoom) (userId : String) (done : Readied) : Prop where
  creatorId : done.room.creatorId = room.creatorId
  guestId : done.room.guestId = room.guestId
  creatorReady : done.room.creatorReady = (room.creatorReady || userId = room.creatorId)
  guestReady : done.room.guestReady = (room.guestReady || userId ≠ room.creatorId)
  bothReady : done.bothReady = (done.room.creatorReady && done.room.guestReady)
  starts : done.starts = false

theorem setPlayerReady_marks (found : rooms roomId = some room)
    (player : userId = room.creatorId ∨ some userId = room.guestId) :
    ∃ done, setPlayerReady rooms roomId userId now = .ok done ∧ Marks room userId done := by
  by_cases creator : userId = room.creatorId
  · refine ⟨readied (room.setCreatorReady true now), by simp [setPlayerReady, found, creator], ?_⟩
    refine ⟨?_, ?_, ?_, ?_, rfl, checkBothReady_starts _ _⟩ <;>
      simp only [readied, PrivateRoom.setCreatorReady, PrivateRoom.checkBothReady] <;> split <;>
      simp [creator]
  · have guest := player.resolve_left creator
    refine ⟨readied (room.setGuestReady true now), ?_, ?_⟩
    · rw [setPlayerReady, found]
      simp only [creator, guest, if_true, if_false]
    refine ⟨?_, ?_, ?_, ?_, rfl, checkBothReady_starts _ _⟩ <;>
      simp only [readied, PrivateRoom.setGuestReady, PrivateRoom.checkBothReady] <;> split <;>
      simp [creator]

theorem Marks.waits_iff {done : Readied} {call : ReadyCall} (marks : Marks room call.userId done)
    (player : call.userId = room.creatorId ∨ some call.userId = room.guestId) :
    done.room.Waits calls ↔ room.Waits (call :: calls) := by
  simp only [PrivateRoom.Waits, marks.creatorId, marks.guestId, marks.creatorReady,
    marks.guestReady, List.forall_mem_cons, Bool.or_eq_false_iff, decide_eq_false_iff_not]
  grind

theorem Marks.bothReady_iff {done : Readied} (marks : Marks room userId done) :
    done.bothReady = false ↔ done.room.Waits [] := by
  rw [marks.bothReady, Bool.and_eq_false_iff]
  simp [PrivateRoom.Waits]

variable (roomId) in
theorem readyCalls_spec (found : rooms roomId = some room)
    (players : ∀ call ∈ calls, call.userId = room.creatorId ∨ some call.userId = room.guestId) :
    (∀ done ∈ readyCalls roomId rooms calls, done.starts = false) ∧
      ((∀ done ∈ readyCalls roomId rooms calls, done.bothReady = false) ↔
        calls = [] ∨ room.Waits calls) := by
  induction calls generalizing rooms room with
  | nil => simp [readyCalls]
  | cons call calls ih =>
    have player := players call List.mem_cons_self
    rcases @setPlayerReady_marks _ _ _ _ call.now found player with ⟨done, answered, marks⟩
    have others : ∀ call ∈ calls,
        call.userId = done.room.creatorId ∨ some call.userId = done.room.guestId := by
      intro call member
      rw [marks.creatorId, marks.guestId]
      exact players call (List.mem_cons_of_mem _ member)
    have rest := ih (Function.update_self roomId (some done.room) rooms) others
    rw [readyCalls, answered]
    refine ⟨List.forall_mem_cons.mpr ⟨marks.starts, rest.1⟩, ?_⟩
    rw [List.forall_mem_cons, rest.2, marks.bothReady_iff, ← marks.waits_iff player]
    have fewer : done.room.Waits calls → done.room.Waits [] := by
      rintro (⟨ready, _⟩ | ⟨ready, _⟩)
      · exact Or.inl ⟨ready, by simp⟩
      · exact Or.inr ⟨ready, by simp⟩
    grind

theorem startsOnce_iff {calls : List Readied} (none : ∀ done ∈ calls, done.starts = false) :
    StartsOnce calls ↔ ∀ done ∈ calls, done.bothReady = false := by
  refine ⟨fun once done member => ?_, ?_⟩
  · by_contra ready
    have some : (calls.find? Readied.bothReady).isSome :=
      List.find?_isSome.mpr ⟨done, member, Bool.of_not_eq_false ready⟩
    rcases Option.isSome_iff_exists.mp some with ⟨first, isFirst⟩
    rcases List.find?_eq_some_iff_append.mp isFirst with ⟨isReady, earlier, later, rfl, before⟩
    have starts := (once earlier first later rfl).mpr ⟨isReady, by simpa using before⟩
    rw [none first (by simp)] at starts
    cases starts
  · rintro never earlier done later rfl
    simp [none done (by simp), never done (by simp)]

theorem setPlayerReady_startsOnce_iff (rooms : PrivateRooms) (roomId : String) (room : PrivateRoom)
    (calls : List ReadyCall) (found : rooms roomId = some room)
    (players : ∀ call ∈ calls, call.userId = room.creatorId ∨ some call.userId = room.guestId) :
    StartsOnce (readyCalls roomId rooms calls) ↔ calls = [] ∨ room.Waits calls := by
  have spec := readyCalls_spec roomId found players
  rw [startsOnce_iff spec.1, spec.2]

def readyRoom : PrivateRoom := ⟨"ada", some "bob", .ready, none, false, false⟩

theorem setPlayerReady_startsOnce_ada :
    StartsOnce (readyCalls "room" (fun _ => some readyRoom) [⟨"ada", 0⟩, ⟨"ada", 1⟩]) :=
  (setPlayerReady_startsOnce_iff (fun _ => some readyRoom) "room" readyRoom _ rfl
    (by decide)).mpr (Or.inr (Or.inr ⟨rfl, by decide⟩))

/-- Both are ready and nothing starts. -/
theorem both_ready_start_nothing :
    ¬StartsOnce (readyCalls "room" (fun _ => some readyRoom) [⟨"ada", 0⟩, ⟨"bob", 1⟩]) := by
  intro once
  have starts := once [_] _ [] rfl
  revert starts
  decide

end CodeClash.Backend
