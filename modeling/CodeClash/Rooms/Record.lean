import CodeClash.Calendar.Iso
import CodeClash.Json.Number
import CodeClash.Rooms.Redis

/-!
# The texts of a room

`createBattleRoom`, `getBattleRoom` and `updateBattleRoom` of
`packages/backend/src/services/redis.service.ts`, with the texts in which the hash of a room keeps
dates and numbers. Calls do not overlap, and the key does not expire. Texts that are passed on
unread have the type of what they say, and a number that is none is `none`. A text that is no date,
which nothing writes, is read as if it were empty.
-/

namespace CodeClash.Rooms.Record

open Calendar Json

abbrev Number := Option Decimal

structure BattleRoom where
  id : String
  player1Id : String
  player2Id : String
  puzzleId : String
  state : BattleState
  startedAt : Option Date
  endedAt : Option Date
  timeLimit : Number
  currentRound : Number

structure RoomData where
  id : String
  player1Id : String
  player2Id : String
  puzzleId : String
  state : BattleState
  startedAt : List Char
  endedAt : List Char
  timeLimit : List Char
  currentRound : List Char

structure RoomUpdates where
  player1Id : Option String
  player2Id : Option String
  puzzleId : Option String
  state : Option BattleState
  startedAt : Option Date
  endedAt : Option Date
  timeLimit : Option Number
  currentRound : Option Number

def BattleRoom.merge (room : BattleRoom) (updates : RoomUpdates) : BattleRoom where
  id := room.id
  player1Id := updates.player1Id.getD room.player1Id
  player2Id := updates.player2Id.getD room.player2Id
  puzzleId := updates.puzzleId.getD room.puzzleId
  state := updates.state.getD room.state
  startedAt := updates.startedAt <|> room.startedAt
  endedAt := updates.endedAt <|> room.endedAt
  timeLimit := updates.timeLimit.getD room.timeLimit
  currentRound := updates.currentRound.getD room.currentRound

def numberText : Number → List Char
  | none => "NaN".toList
  | some decimal => decimal.text

def parseDigits (negative : Bool) (text : List Char) : Number :=
  let digits := (readDigits text).1
  if digits = [] then none else some (.ofDigits negative digits digits.length)

/-- The part of `parseInt` that texts of numbers reach. -/
def parseInt (text : List Char) : Number :=
  match text with
  | '-' :: rest => parseDigits true rest
  | rest => parseDigits false rest

/-- `date?.toISOString() || ''` -/
def write (date : Option Date) : List Char := (date.map toISOString).getD []

/-- `text ? new Date(text) : undefined` -/
def read (text : List Char) : Option Date := if text = [] then none else newDate text

def hset (room : BattleRoom) : RoomData where
  id := room.id
  player1Id := room.player1Id
  player2Id := room.player2Id
  puzzleId := room.puzzleId
  state := room.state
  startedAt := write room.startedAt
  endedAt := write room.endedAt
  timeLimit := numberText room.timeLimit
  currentRound := numberText room.currentRound

def parse (roomData : RoomData) : BattleRoom where
  id := roomData.id
  player1Id := roomData.player1Id
  player2Id := roomData.player2Id
  puzzleId := roomData.puzzleId
  state := roomData.state
  startedAt := read roomData.startedAt
  endedAt := read roomData.endedAt
  timeLimit := parseInt roomData.timeLimit
  currentRound := parseInt roomData.currentRound

abbrev Store := String → Option RoomData

def roomKey (roomId : String) : String := "battle:room:" ++ roomId

def createBattleRoom (room : BattleRoom) (store : Store) : Store :=
  Function.update store (roomKey room.id) (some (hset room))

def getBattleRoom (roomId : String) (store : Store) : Option BattleRoom :=
  ((store (roomKey roomId)).filter fun roomData => roomData.id ≠ "").map parse

def updateBattleRoom (roomId : String) (store : Store) (updates : RoomUpdates) :
    Except String Store :=
  match getBattleRoom roomId store with
  | none => .error "Battle room not found"
  | some currentRoom =>
    .ok (Function.update store (roomKey roomId) (some (hset (currentRoom.merge updates))))

/-- A whole number below 10²¹ that `parseInt` reads back from its text. -/
def ReadsBack (number : Decimal) : Prop :=
  number.digits.length ≤ number.point ∧ number.point ≤ 21

/-- The digits before the point or the exponent. -/
def leading (number : Decimal) : Decimal :=
  .ofDigits number.negative number.literal.whole number.literal.whole.length

theorem whole_length_le (number : Decimal) : number.literal.whole.length ≤ 21 := by
  unfold Decimal.literal
  split_ifs <;> simp <;> omega

theorem readsBack_ofDigits (negative : Bool) (digits : List Digit) (short : digits.length ≤ 21) :
    ReadsBack (.ofDigits negative digits digits.length) := by
  unfold Decimal.ofDigits
  split_ifs with empty
  · exact ⟨le_refl _, by decide⟩
  · have split := congrArg List.length (List.takeWhile_append_dropWhile (p := Decimal.isZero)
      (l := digits))
    have kept := (List.rdropWhile_prefix Decimal.isZero
      (l := digits.dropWhile Decimal.isZero)).length_le
    rw [List.length_append] at split
    refine ⟨?_, ?_⟩ <;> simp only [Decimal.significant] <;> omega

theorem leading_eq_iff (number : Decimal) : leading number = number ↔ ReadsBack number := by
  constructor
  · intro same
    rw [← same]
    exact readsBack_ofDigits _ _ (whole_length_le number)
  · rintro ⟨whole, short⟩
    have value := (Decimal.literal_value number).2
    have shape : number.literal.fraction = [] ∧ number.literal.exponent = 0 := by
      unfold Decimal.literal
      split_ifs <;> simp_all
    rwa [Literal.value, shape.1, shape.2, List.append_nil, add_zero] at value

theorem parseInt_text (number : Decimal) : parseInt number.text = some (leading number) := by
  have digits : readDigits number.literal.text = (number.literal.whole,
      fractionText number.literal.fraction ++ exponentText number.literal.exponent) :=
    readDigits_append _ (startsWithout_append (fractionText_startsWithout (by decide))
      (exponentText_startsWithout (by decide)))
  have present := (Decimal.literal_value number).1.1
  have parsed (negative : Bool) : parseDigits negative number.literal.text =
      some (.ofDigits negative number.literal.whole number.literal.whole.length) := by
    rw [parseDigits, digits]
    exact if_neg present
  rw [Decimal.text, leading]
  cases number.negative with
  | true => exact parsed true
  | false =>
    have noMinus := @text_startsWithout [] number
    rw [List.append_nil] at noMinus
    rw [if_neg Bool.false_ne_true, parseInt.eq_def]
    split
    · next starts => exact absurd rfl (noMinus '-' (by rw [starts]; rfl))
    · exact parsed false

def kept (number : Number) : Number := number.map leading

theorem parseInt_numberText (number : Number) : parseInt (numberText number) = kept number := by
  cases number with
  | none => rfl
  | some number => exact parseInt_text number

theorem kept_eq_iff (number : Number) :
    kept number = number ↔ ∀ decimal ∈ number, ReadsBack decimal := by
  cases number with
  | none => simp [kept]
  | some number => simp [kept, leading_eq_iff]

theorem kept_kept (number : Number) : kept (kept number) = kept number := by
  rw [kept_eq_iff]
  intro decimal member
  rcases Option.map_eq_some_iff.mp member with ⟨number, _, rfl⟩
  exact readsBack_ofDigits _ _ (whole_length_le number)

def BattleRoom.kept (room : BattleRoom) : BattleRoom :=
  { room with
    timeLimit := Record.kept room.timeLimit
    currentRound := Record.kept room.currentRound }

theorem read_write (date : Option Date) : read (write date) = date := by
  cases date with
  | none => rfl
  | some date =>
    have written : toISOString date ≠ [] := by
      intro empty
      have back := newDate_toISOString date
      rw [empty] at back
      cases back
    simp [read, write, written, newDate_toISOString]

theorem parse_hset (room : BattleRoom) : parse (hset room) = room.kept := by
  simp only [parse, hset, read_write, parseInt_numberText, BattleRoom.kept]

theorem merge_kept (room : BattleRoom) (updates : RoomUpdates) :
    (room.kept.merge updates).kept = (room.merge updates).kept := by
  rcases updates with ⟨_, _, _, _, _, _, timeLimit, currentRound⟩
  cases timeLimit <;> cases currentRound <;> simp [BattleRoom.kept, BattleRoom.merge, kept_kept]

theorem getBattleRoom_eq {roomId : String} {room : BattleRoom} {store : Store}
    (present : room.id ≠ "") (found : store (roomKey roomId) = some (hset room)) :
    getBattleRoom roomId store = some room.kept := by
  have named : decide ((hset room).id ≠ "") = true := decide_eq_true present
  rw [getBattleRoom, found, Option.filter_some, if_pos named, Option.map_some, parse_hset]

def updateAll (roomId : String) (store : Store)
    (updates : List RoomUpdates) : Except String Store :=
  updates.foldlM (updateBattleRoom roomId) store

theorem getBattleRoom_updateAll {room stored : BattleRoom} {store : Store}
    (present : room.id ≠ "") (sameId : stored.id = room.id) (same : stored.kept = room.kept)
    (found : store (roomKey room.id) = some (hset stored))
    (updates : List RoomUpdates) :
    ∃ reached, updateAll room.id store updates = .ok reached ∧
      getBattleRoom room.id reached = some (updates.foldl BattleRoom.merge room).kept := by
  induction updates generalizing room stored store with
  | nil =>
    refine ⟨store, rfl, ?_⟩
    rw [getBattleRoom_eq (by rwa [sameId]) found, same]
    rfl
  | cons update updates ih =>
    have read := getBattleRoom_eq (by rwa [sameId]) found
    have step := @ih (room.merge update) (room.kept.merge update) _ present rfl
      (merge_kept room update) (Function.update_self _ _ store)
    rw [updateAll, List.foldlM_cons, updateBattleRoom, read, same]
    exact step

/-- What is read after the updates is the merged room, as far as its numbers read back. -/
theorem battleRoom_round_trip (room : BattleRoom) (store : Store)
    (updates : List RoomUpdates) (present : room.id ≠ "") :
    ∃ reached, updateAll room.id (createBattleRoom room store) updates = .ok reached ∧
      (getBattleRoom room.id reached = some (updates.foldl BattleRoom.merge room) ↔
        (∀ number ∈ (updates.foldl BattleRoom.merge room).timeLimit, ReadsBack number) ∧
          ∀ number ∈ (updates.foldl BattleRoom.merge room).currentRound, ReadsBack number) := by
  have found := Function.update_self (roomKey room.id) (some (hset room)) store
  rcases getBattleRoom_updateAll present rfl rfl found updates with ⟨reached, updated, read⟩
  refine ⟨reached, updated, ?_⟩
  rw [read, Option.some.injEq, ← kept_eq_iff, ← kept_eq_iff]
  constructor
  · intro same
    exact ⟨congrArg BattleRoom.timeLimit same, congrArg BattleRoom.currentRound same⟩
  · rintro ⟨timeLimit, currentRound⟩
    rw [BattleRoom.kept, timeLimit, currentRound]

def power (point : ℤ) : Decimal :=
  .ofDigits false [⟨1, Nat.succ_lt_succ (Nat.succ_pos 8)⟩] point

/-- The 17th of November 2026, at half past nine. -/
def morning : Date := ⟨1794907800123, by decide⟩

def sampleRoom (timeLimit : Decimal) : BattleRoom :=
  ⟨"room", "ada", "bob", "puzzle", .waiting, none, none, some timeLimit, some (power 1)⟩

def noUpdates : RoomUpdates := ⟨none, none, none, none, none, none, none, none⟩

/-- The battle starts, gets another time limit and ends. -/
def sampleUpdates : List RoomUpdates :=
  [{ noUpdates with state := some .active, startedAt := some morning },
    { noUpdates with timeLimit := some (some (power 3)) },
    { noUpdates with state := some .ended, endedAt := some ⟨253402300800000, by decide⟩ }]

theorem battleRoom_round_trip_updated :
    ∃ reached, updateAll "room" (createBattleRoom (sampleRoom (power 22)) fun _ => none)
        sampleUpdates = .ok reached ∧
      getBattleRoom "room" reached = some { sampleRoom (power 3) with
        state := .ended, startedAt := some morning
        endedAt := some ⟨253402300800000, by decide⟩ } := by
  rcases battleRoom_round_trip (sampleRoom (power 22)) (fun _ => none) sampleUpdates
    (by decide) with ⟨reached, updated, reads⟩
  refine ⟨reached, updated, reads.mpr ⟨?_, ?_⟩⟩
  · rintro _ ⟨⟩
    exact ⟨by decide, by decide⟩
  · rintro _ ⟨⟩
    exact ⟨by decide, by decide⟩

/-- The time limit 10²¹ is written as `1e+21` and read back as 1. -/
theorem huge_time_limit_is_lost :
    getBattleRoom "room" (createBattleRoom (sampleRoom (power 22)) fun _ => none) ≠
      some (sampleRoom (power 22)) := by
  intro same
  have present : (sampleRoom (power 22)).id ≠ "" := by decide
  have read := @getBattleRoom_eq "room" _ _ present (Function.update_self _ _ fun _ => none)
  have sameLimit := congrArg BattleRoom.timeLimit (Option.some.inj (read.symm.trans same))
  have readsBack := (kept_eq_iff (some (power 22))).mp sameLimit (power 22) rfl
  exact absurd readsBack.2 (by decide)

end CodeClash.Rooms.Record
