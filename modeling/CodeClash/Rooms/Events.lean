import CodeClash.Json.Text
import CodeClash.Rooms.Service

/-!
# Events of battles and their subscribers

The events of a battle are published as JSON texts, and the subscriptions of
`packages/backend/src/socket/battle.handlers.ts` emit them to the sockets of the room. `SUBSCRIBE`
delivers the messages of one channel, and a callback finds the room by matching `data.channel`,
which no message has. How a value inside a message is printed is a parameter.
-/

namespace CodeClash.Rooms

abbrev Printed := { value : Json // value.WellFormed }

def Message.names : Message → List String
  | .countdown _ => ["seconds"]
  | .start _ _ _ _ => ["puzzle", "timeLimit", "opponentName", "opponentElo"]
  | .timeWarning _ => ["secondsLeft"]
  | .opponentProgress _ _ => ["linesChanged", "submissionCount"]
  | .damage _ _ _ _ _ => ["sourcePlayer", "targetPlayer", "damage", "targetHP", "attackAnimation"]
  | .spellUsed _ _ _ => ["caster", "spellType", "effect"]
  | .codeWipe _ => ["targetId"]
  | .reconnecting _ => ["opponentId"]
  | .opponentReconnected => []
  | .stateUpdate _ => ["room", "player1", "player2", "puzzle", "timeRemaining", "currentTurn"]
  | .ended _ => ["winner", "loser", "duration", "totalSubmissions", "damageLog", "eloChange",
      "rewards"]
  | .unlocked _ => ["spellId", "spell", "userId"]

def Message.json (values : Message → String → Printed) (message : Message) : Json :=
  .object (message.names.map fun name => (name, (values message name).val))

inductive Event where
  | start
  | countdown
  | damage
  | spellUsed
  | timeWarning
  | ended
  | reconnecting
  | opponentReconnected
  | opponentProgress
  | stateUpdate
deriving DecidableEq, Repr

def Event.name : Event → String
  | .start => "start"
  | .countdown => "countdown"
  | .damage => "damage"
  | .spellUsed => "spell_used"
  | .timeWarning => "time_warning"
  | .ended => "end"
  | .reconnecting => "reconnecting"
  | .opponentReconnected => "opponent_reconnected"
  | .opponentProgress => "opponent_progress"
  | .stateUpdate => "state_update"

def Event.all : List Event :=
  [.start, .countdown, .damage, .spellUsed, .timeWarning, .ended, .reconnecting,
    .opponentReconnected, .opponentProgress, .stateUpdate]

def Event.pattern (event : Event) : String := "battle:*:" ++ event.name

structure Emission where
  room : String
  event : String
  data : Json

inductive CallbackError where
  | typeError
deriving DecidableEq, Repr

/-- The expression `data.channel`. -/
def getChannel : Json → Except CallbackError (Option Json)
  | .null => throw .typeError
  | .object members => return (members.find? fun member => member.1 = "channel").map Prod.snd
  | _ => return none

/-- The group of a match of `before([^:]+)after` at the start of a text. What follows the group
begins with a colon, so the group reaches up to the next colon. -/
def matchGroup (before after text : List Char) : Option (List Char) :=
  let rest := text.drop before.length
  let group := rest.takeWhile (· ≠ ':')
  if before.isPrefixOf text ∧ group ≠ [] ∧ after.isPrefixOf (rest.dropWhile (· ≠ ':')) then
    some group
  else none

def searchGroup (before after : List Char) : List Char → Option (List Char)
  | [] => matchGroup before after []
  | c :: text => matchGroup before after (c :: text) <|> searchGroup before after text

/-- The pattern is a regular expression after its asterisk was replaced by `([^:]+)`. Nothing but a
text has the method `match`. -/
def extractRoomIdFromChannel (pattern : String) :
    Option Json → Except CallbackError (Option RoomId)
  | some (.string channel) =>
    let before := pattern.toList.takeWhile (· ≠ '*')
    let after := (pattern.toList.dropWhile (· ≠ '*')).tail
    return (searchGroup before after channel.toList).map String.ofList
  | _ => throw .typeError

def onEvent (event : Event) (data : Json) : Except CallbackError (List Emission) := do
  let channel ← getChannel data
  let found ← extractRoomIdFromChannel event.pattern channel
  match found with
  | none => return []
  | some roomId =>
    if roomId = "" then return []
    else return [⟨"battle:" ++ roomId, "battle:" ++ event.name, data⟩]

/-- The listener of a subscription. An error of the callback is a rejected promise, and a text that
cannot be read is only logged. -/
def listen (event : Event) (receivedChannel text : String) : List Emission :=
  if receivedChannel = event.pattern then
    match Json.parse text with
    | none => []
    | some data =>
      match onEvent event data with
      | .ok emissions => emissions
      | .error _ => []
  else []

/-- `SUBSCRIBE` delivers a text if its channel is the name of a subscription, and every listener
hears of it. -/
def deliver (publishedChannel text : String) : List Emission :=
  if publishedChannel ∈ Event.all.map Event.pattern then
    Event.all.flatMap fun event => listen event publishedChannel text
  else []

def emissions (values : Message → String → Printed) (published : String × Message) :
    List Emission :=
  deliver published.1 (published.2.json values).stringify

def EmittedOnce (values : Message → String → Printed) (published : String × Message)
    (roomId : RoomId) : Prop :=
  ((emissions values published).filter fun emission => emission.room = "battle:" ++ roomId).length
    = 1

theorem membersWellFormed_map (values : String → Printed) (names : List String) :
    Json.MembersWellFormed (names.map fun name => (name, (values name).val)) := by
  induction names with
  | nil => trivial
  | cons name _ ih => exact ⟨(values name).property, ih⟩

theorem Message.names_nodup (message : Message) : message.names.Nodup := by
  cases message <;> simp [Message.names]

section Messages

variable (values : Message → String → Printed)

theorem Message.json_wellFormed (message : Message) : (message.json values).WellFormed := by
  refine ⟨?_, membersWellFormed_map (values message) message.names⟩
  simpa [Function.comp_def] using message.names_nodup

theorem onEvent_throws (event : Event) (message : Message) :
    onEvent event (message.json values) = .error .typeError := by
  cases message <;> rfl

theorem listen_eq_nil (event : Event) (receivedChannel : String) (message : Message) :
    listen event receivedChannel (message.json values).stringify = [] := by
  rw [listen, Json.parse_stringify (message.json_wellFormed values)]
  simp only [onEvent_throws, ite_self]

theorem emissions_eq_nil (published : String × Message) : emissions values published = [] := by
  simp [emissions, deliver, listen_eq_nil]

/-- No message of a battle is ever emitted to its room. -/
theorem event_never_emitted (roomId : RoomId) (event : Event) (message : Message) :
    ¬EmittedOnce values (channel roomId event.name, message) roomId := by
  rw [EmittedOnce, emissions_eq_nil]
  exact Nat.zero_ne_one

end Messages

/-- The start of a battle is not emitted. -/
theorem start_is_not_emitted :
    ¬EmittedOnce (fun _ _ => ⟨.null, trivial⟩)
      (channel "room" "start", .start none 900000 "bob" 1200) "room" := by
  unfold EmittedOnce
  decide +kernel

end CodeClash.Rooms
