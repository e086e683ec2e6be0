import Switchboard.Wire.Envelope
import Switchboard.Json.Print

/-!
# Requests

A request is a tag, a correlation token and the payload's fields. On the wire it is one flat
object: `@type` first, then `@extra` when the token is not empty, then the fields in key order.
The two tag keys cannot be set as fields; a field set twice keeps its last value.

The typed operations the client uses are listed as `Operation`; each knows its tag, the kind of
reply it waits for, and whether the engine answers it at once, without a round trip.
-/

namespace Switchboard

/-- A request to the engine. -/
structure Request where
  typeName : String
  /-- The correlation token; empty when none is attached. -/
  extra : String := ""
  /-- The payload's fields, in key order, one per key. -/
  data : List (String × Json) := []

namespace Request

/-- Whether a key is one of the two tag keys, which fields cannot use. -/
def isTagKey (key : String) : Bool :=
  key == "@type" || key == "@extra"

/-- Sets a field; the tag keys are ignored and a later value replaces an earlier one. -/
def withField (request : Request) (name : String) (value : Json) : Request :=
  if isTagKey name then request
  else { request with data := Json.insertEntry name value request.data }

/-- Attaches a correlation token. -/
def withExtra (request : Request) (extra : String) : Request :=
  { request with extra }

/-- The wire object of a request. -/
def toJson (request : Request) : Json :=
  .object ([("@type", .string request.typeName)] ++
    (if request.extra.isEmpty then [] else [("@extra", .string request.extra)]) ++ request.data)

/-- The wire text of a request. -/
def toText (request : Request) : String :=
  request.toJson.compact

end Request

/-- The typed operations the client sends. -/
inductive Operation where
  | getAuthorizationState
  | setParameters (parameters : Parameters)
  | checkEncryptionKey (encryptionKey : String)
  | setPhoneNumber (phoneNumber : String) (allowFlashCall isCurrentPhoneNumber : Bool)
  | checkCode (code firstName lastName : String)
  | checkPassword (password : String)
  | checkBotToken (token : String)
  | close
  | getFileMimeType (fileName : String)

namespace Operation

/-- The operation's tag. -/
def typeName : Operation → String
  | getAuthorizationState => "getAuthorizationState"
  | setParameters _ => "setTdlibParameters"
  | checkEncryptionKey _ => "checkDatabaseEncryptionKey"
  | setPhoneNumber .. => "setAuthenticationPhoneNumber"
  | checkCode .. => "checkAuthenticationCode"
  | checkPassword _ => "checkAuthenticationPassword"
  | checkBotToken _ => "checkAuthenticationBotToken"
  | close => "close"
  | getFileMimeType _ => "getFileMimeType"

/-- The kind of reply the operation waits for. -/
def replyKind : Operation → ReplyKind
  | getAuthorizationState => .authState
  | getFileMimeType _ => .text
  | _ => .ok

/-- Whether the engine answers the operation at once. -/
def synchronous : Operation → Bool
  | getFileMimeType _ => true
  | _ => false

/-- The operation's fields as a value. -/
def payload : Operation → Json
  | getAuthorizationState => .object []
  | setParameters parameters => .object [("parameters", parameters.toJson)]
  | checkEncryptionKey key => .object [("encryption_key", .string key)]
  | setPhoneNumber phoneNumber allowFlashCall isCurrent =>
      .object [("phone_number", .string phoneNumber), ("allow_flash_call", .bool allowFlashCall),
        ("is_current_phone_number", .bool isCurrent)]
  | checkCode code firstName lastName =>
      .object [("code", .string code), ("first_name", .string firstName),
        ("last_name", .string lastName)]
  | checkPassword password => .object [("password", .string password)]
  | checkBotToken token => .object [("token", .string token)]
  | close => .object []
  | getFileMimeType fileName => .object [("file_name", .string fileName)]

/-- The request of an operation: its tag, no token, and its fields in key order without the tag
keys. -/
def toRequest (operation : Operation) : Request :=
  let fields := match operation.payload.normalize with
    | .object entries => entries.filter fun (key, _) => !Request.isTagKey key
    | _ => []
  { typeName := operation.typeName, data := fields }

end Operation

end Switchboard
