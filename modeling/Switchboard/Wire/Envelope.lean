import Switchboard.Wire.Authorization
import Switchboard.Wire.Error
import Switchboard.Json.Reader

/-!
# Received messages

An envelope is a message as the engine handed it over: its tag, its correlation token and the
whole text, kept as bytes. Reading an envelope reads only the two tags; the payload is decoded
later, by the one who knows which reply to expect. The token is a string the client minted; any
other `@extra` is not the client's and reads as no token.

Replies come in three kinds: the empty success `ok`, a `text`, and an authorization state, which
is accepted under any tag that starts with `authorizationState`. An error reply is tagged `error`
and carries a code and a message.
-/

namespace Switchboard

/-- An error the engine replied with. -/
structure ErrorReply where
  code : Int32
  message : String
  deriving DecidableEq, Repr

namespace ErrorReply

/-- The text of an error reply: the code, a space, the message. -/
def display (reply : ErrorReply) : String :=
  toString reply.code.toInt ++ " " ++ reply.message

/-- Reads an error reply; the code is required, the message defaults to empty. -/
def read {m : Type → Type} [Monad m] [MonadExceptOf DecodeError m] [JsonSource m] :
    m ErrorReply :=
  let record := "struct TdError"
  JsonSource.record record
    (do
      let (code, message) ← JsonSource.foldEntries ((none : Option Int32), (none : Option String))
        fun (code, message) key =>
          if key = "code" then do pure (← JsonSource.fieldOnce code key JsonSource.int32, message)
          else if key = "message" then do
            pure (code, ← JsonSource.fieldOnce message key JsonSource.string)
          else do
            JsonSource.entry JsonSource.skip
            pure (code, message)
      let code ← JsonSource.required code "code"
      pure { code, message := message.getD "" })
    (do
      let code ← JsonSource.positional record 2 0 JsonSource.int32 none
      let message ← JsonSource.positional record 2 1 JsonSource.string (some "")
      pure { code, message })

end ErrorReply

/-- Reads a text reply's one field. -/
def readText {m : Type → Type} [Monad m] [MonadExceptOf DecodeError m] [JsonSource m] :
    m String :=
  JsonSource.single "struct Text" "text" JsonSource.string none

/-- Reads the empty success reply: a record without fields, whatever its entries. -/
def readOk {m : Type → Type} [Monad m] [MonadExceptOf DecodeError m] [JsonSource m] : m Unit :=
  JsonSource.record "struct OkResponse"
    (JsonSource.foldEntries () fun () _ => JsonSource.entry JsonSource.skip)
    (pure ())

/-- The kinds of reply a caller can wait for. -/
inductive ReplyKind where
  | ok
  | text
  | authState
  deriving DecidableEq, Repr

/-- A decoded reply. -/
inductive ReplyValue where
  | ok
  | text (text : String)
  | authState (state : AuthState)
  deriving DecidableEq, Repr

namespace ReplyKind

/-- The tag a reply kind is known by. -/
def tag : ReplyKind → String
  | ok => "ok"
  | text => "text"
  | authState => "authorizationState"

/-- Whether a message with tag `typeName` is a reply of this kind: the tag itself, or for an
authorization state any tag that starts with it. -/
def accepts (kind : ReplyKind) (typeName : String) : Bool :=
  match kind with
  | authState => typeName.startsWith kind.tag
  | _ => typeName == kind.tag

/-- Reads a reply of this kind. -/
def read {m : Type → Type} [Monad m] [MonadExceptOf DecodeError m] [JsonSource m] :
    ReplyKind → m ReplyValue
  | ok => do readOk; pure .ok
  | text => ReplyValue.text <$> readText
  | authState => ReplyValue.authState <$> AuthState.read

end ReplyKind

/-- A message received from the engine: its tag, its correlation token and its whole text. -/
structure Envelope where
  typeName : String
  /-- The correlation token; empty for an unsolicited message. -/
  extra : String
  data : ByteArray

namespace Envelope

/-- The tags of a message: `@type` is required, `@extra` may be any value. -/
def readTags {m : Type → Type} [Monad m] [MonadExceptOf DecodeError m] [JsonSource m] :
    m (String × Option Json) :=
  let record := "struct Meta"
  JsonSource.record record
    (do
      let (typeName, extra) ← JsonSource.foldEntries
        ((none : Option String), (none : Option (Option Json)))
        fun (typeName, extra) key =>
          if key = "@type" then do
            pure (← JsonSource.fieldOnce typeName key JsonSource.string, extra)
          else if key = "@extra" then do
            pure (typeName, ← JsonSource.fieldOnce extra key (JsonSource.optionalJson 130))
          else do
            JsonSource.entry JsonSource.skip
            pure (typeName, extra)
      let typeName ← JsonSource.required typeName "@type"
      pure (typeName, extra.getD none))
    (do
      let typeName ← JsonSource.positional record 2 0 JsonSource.string none
      let extra ← JsonSource.positional record 2 1 (JsonSource.optionalJson 130) (some none)
      pure (typeName, extra))

/-- Reads the tags of a raw message and keeps its bytes. -/
def ofBytes (raw : ByteArray) : Except WireError Envelope :=
  match Json.decodeText raw readTags with
  | .ok (typeName, extra) =>
      let token := match extra with
        | some (.string token) => token
        | _ => ""
      .ok { typeName, extra := token, data := raw }
  | .error error => .error (.json error)

/-- Whether the message is an error reply. -/
def isError (envelope : Envelope) : Bool :=
  envelope.typeName == "error"

/-- Whether the message answers a request, that is, carries a token. -/
def isReply (envelope : Envelope) : Bool :=
  !envelope.extra.isEmpty

/-- The message's text, with bytes that are not UTF-8 replaced. -/
def text (envelope : Envelope) : String :=
  Text.Utf8.lossy envelope.data

/-- Decodes the whole message with `decoder`. -/
def decode {α : Type} (envelope : Envelope) (decoder : Scan α) : Except WireError α :=
  match Json.decodeText envelope.data decoder with
  | .ok value => .ok value
  | .error error => .error (.json error)

/-- Decodes a reply of `kind`, after checking that its tag is one the kind accepts. -/
def decodeReply (envelope : Envelope) (kind : ReplyKind) : Except WireError ReplyValue :=
  if kind.accepts envelope.typeName then envelope.decode kind.read
  else .error (.unexpectedType kind.tag envelope.typeName)

/-- Splits a message into itself or, for an error reply, the error it carries. -/
def intoResult (envelope : Envelope) : Except WireError (Except ErrorReply Envelope) :=
  if envelope.isError then
    match envelope.decode ErrorReply.read with
    | .ok reply => .ok (.error reply)
    | .error error => .error error
  else .ok (.ok envelope)

end Envelope

end Switchboard
