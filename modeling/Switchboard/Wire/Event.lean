import Switchboard.Wire.Envelope
import Switchboard.Wire.Wide

/-!
# Events

Every message the engine sends is read as an event. The `@type` tag decides how: six tags and
every tag that starts with `authorizationState` have a typed form, and any other tag is kept as
an unknown event with its whole value, so that nothing is lost. Only a message without a tag that
is a string is refused. A message with a known tag and a body of the wrong shape is an error, not
an unknown event.

The message is first parsed as a whole (so a repeated key keeps its last value), then the typed
form is read from the parsed value; errors of that second reading carry no place.
-/

namespace Switchboard

/-- The value of an engine option. -/
inductive OptionValue where
  | boolean (value : Bool)
  | empty
  | integer (value : Int64)
  | string (value : String)
  deriving DecidableEq, Repr

namespace OptionValue

/-- The tags of option values, in declaration order. -/
def tags : List String :=
  ["optionValueBoolean", "optionValueEmpty", "optionValueInteger", "optionValueString"]

/-- The wire form; a 64-bit integer is written as a string. -/
def toJson : OptionValue → Json
  | boolean value => .object [("@type", .string "optionValueBoolean"), ("value", .bool value)]
  | empty => .object [("@type", .string "optionValueEmpty")]
  | integer value => .object [("@type", .string "optionValueInteger"), ("value", Wide.toJson value)]
  | string value => .object [("@type", .string "optionValueString"), ("value", .string value)]

/-- The union's name in error messages. -/
def unionName : String := "OptionValue"

section Reading

variable {m : Type → Type} [Monad m] [MonadExceptOf DecodeError m] [JsonSource m]

/-- Reads the variant with tag number `index` from the rest of an option value. -/
def readVariant : Fin 4 → Walk OptionValue
  | 0 => boolean <$> JsonSource.single "struct variant OptionValue::Boolean" "value" JsonSource.bool none
  | 1 => do Walk.unitVariant unionName "Empty"; pure empty
  | 2 => integer <$> JsonSource.single "struct variant OptionValue::Integer" "value" Wide.read none
  | 3 => string <$> JsonSource.single "struct variant OptionValue::String" "value" JsonSource.string none

/-- The tag number a name selects, or the unknown-variant error. -/
def chooseTag (name : String) : Except DecodeError (Fin 4) :=
  match tags.idxOf? name with
  | some index => if h : index < 4 then .ok ⟨index, h⟩ else .error (DecodeError.unknownVariant name tags)
  | none => .error (DecodeError.unknownVariant name tags)

/-- Reads an option value. -/
def read : m OptionValue :=
  JsonSource.union unionName "@type" (JsonSource.variantTag chooseTag) readVariant 130

end Reading

end OptionValue

/-- The state of the engine's network connection. -/
inductive ConnectionState where
  | waitingForNetwork
  | connectingToProxy
  | connecting
  | updating
  | ready
  deriving DecidableEq, Repr

namespace ConnectionState

/-- Every connection state, in declaration order. -/
def all : List ConnectionState :=
  [waitingForNetwork, connectingToProxy, connecting, updating, ready]

/-- The wire tag of a connection state. -/
def tag : ConnectionState → String
  | waitingForNetwork => "connectionStateWaitingForNetwork"
  | connectingToProxy => "connectionStateConnectingToProxy"
  | connecting => "connectionStateConnecting"
  | updating => "connectionStateUpdating"
  | ready => "connectionStateReady"

/-- The state's name in error messages. -/
def variantName : ConnectionState → String
  | waitingForNetwork => "WaitingForNetwork"
  | connectingToProxy => "ConnectingToProxy"
  | connecting => "Connecting"
  | updating => "Updating"
  | ready => "Ready"

/-- The wire form: the tag alone. -/
def toJson (state : ConnectionState) : Json :=
  .object [("@type", .string state.tag)]

/-- The state a tag names, or the unknown-variant error. -/
def ofTag (name : String) : Except DecodeError ConnectionState :=
  match all.find? fun state => state.tag = name with
  | some state => .ok state
  | none => .error (DecodeError.unknownVariant name (all.map tag))

/-- Reads a connection state. -/
def read {m : Type → Type} [Monad m] [MonadExceptOf DecodeError m] [JsonSource m] :
    m ConnectionState :=
  JsonSource.union "ConnectionState" "@type" (JsonSource.variantTag ofTag)
    (fun state => do Walk.unitVariant "ConnectionState" state.variantName; pure state) 130

end ConnectionState

/-- A message from the engine in typed form. -/
inductive Event where
  /-- The authorization state changed. -/
  | authorizationUpdate (state : AuthState)
  /-- An engine option changed. -/
  | optionUpdate (name : String) (value : OptionValue)
  /-- The connection state changed. -/
  | connectionUpdate (state : ConnectionState)
  /-- A reply carrying an authorization state. -/
  | authorization (state : AuthState)
  /-- The empty success reply. -/
  | ok
  /-- An error reply. -/
  | error (reply : ErrorReply)
  /-- A text reply. -/
  | text (text : String)
  /-- A message whose tag has no typed form, kept whole. -/
  | unknown (typeName : String) (payload : Json)

namespace Event

/-- The tag of the message the event was read from; a state reply is named by its state. -/
def typeName : Event → String
  | authorizationUpdate _ => "updateAuthorizationState"
  | optionUpdate .. => "updateOption"
  | connectionUpdate _ => "updateConnectionState"
  | authorization state => state.typeName
  | ok => "ok"
  | error _ => "error"
  | text _ => "text"
  | unknown typeName _ => typeName

/-- The authorization state the event carries, if any. -/
def authState? : Event → Option AuthState
  | authorizationUpdate state => some state
  | authorization state => some state
  | _ => none

/-- Reads the body of an authorization update. -/
def readAuthorizationUpdate : Walk AuthState :=
  JsonSource.single "struct UpdateAuthorizationState" "authorization_state" AuthState.read none

/-- Reads the body of a connection update. -/
def readConnectionUpdate : Walk ConnectionState :=
  JsonSource.single "struct UpdateConnectionState" "state" ConnectionState.read none

/-- Reads the body of an option update: a name and a value, both required. -/
def readOptionUpdate : Walk (String × OptionValue) :=
  let record := "struct UpdateOption"
  JsonSource.record record
    (do
      let (name, value) ← JsonSource.foldEntries
        ((none : Option String), (none : Option OptionValue))
        fun (name, value) key =>
          if key = "name" then do pure (← JsonSource.fieldOnce name key JsonSource.string, value)
          else if key = "value" then do
            pure (name, ← JsonSource.fieldOnce value key OptionValue.read)
          else do
            JsonSource.entry JsonSource.skip
            pure (name, value)
      pure (← JsonSource.required name "name", ← JsonSource.required value "value"))
    (do
      let name ← JsonSource.positional record 2 0 JsonSource.string none
      let value ← JsonSource.positional record 2 1 OptionValue.read none
      pure (name, value))

/-- Reads `body` from a parsed message. -/
def readParsed {α : Type} (value : Json) (body : Walk α) : Except WireError α :=
  match Json.decodeTree .parsed value body with
  | .ok result => .ok result
  | .error problem => .error (.json problem)

/-- Reads an event from a parsed message. -/
def ofJson (value : Json) : Except WireError Event :=
  match value.get? "@type" with
  | some (.string tag) =>
      if tag = "updateAuthorizationState" then authorizationUpdate <$> readParsed value readAuthorizationUpdate
      else if tag = "updateOption" then
        (fun (name, option) => optionUpdate name option) <$> readParsed value readOptionUpdate
      else if tag = "updateConnectionState" then
        connectionUpdate <$> readParsed value readConnectionUpdate
      else if tag = "ok" then .ok ok
      else if tag = "error" then error <$> readParsed value ErrorReply.read
      else if tag = "text" then text <$> readParsed value readText
      else if tag.startsWith "authorizationState" then authorization <$> readParsed value AuthState.read
      else .ok (unknown tag value)
  | _ => .error .missingType

/-- Reads an event from the bytes of a message. -/
def ofBytes (raw : ByteArray) : Except WireError Event :=
  match Json.parseBytes raw with
  | .ok value => ofJson value
  | .error problem => .error (.json problem)

end Event

end Switchboard
