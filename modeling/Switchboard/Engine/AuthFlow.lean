import Switchboard.Wire.Authorization
import Switchboard.Json.Print

/-!
# A scripted sign-in

The scripted engine can play the engine's side of sign-in. It walks the states of sign-in as the
client's requests arrive: parameters, then the database key when the database is encrypted, then
the phone number and code for a user (and a password when one is set), or the token for a bot. A
step taken out of turn, a wrong code, password or token is answered with an error reply; every
other request is acknowledged. Asking for the state answers with the state, and closing moves to
the closed state at once, announcing the closing state before the acknowledgement and the closed
state after it.

Replies echo the request's correlation token; state changes are announced as unsolicited updates.
-/

namespace Switchboard
namespace Engine

/-- The acknowledgement. -/
def okBody : Json := .object [("@type", .string "ok")]

/-- An error reply with a code and a message. -/
def errorBody (code : Int) (message : String) : Json :=
  .object [("@type", .string "error"), ("code", .number (Number.ofInt code)),
    ("message", .string message)]

/-- The unsolicited update announcing a sign-in state. -/
def stateUpdate (state : AuthState) : Json :=
  .object [("@type", .string "updateAuthorizationState"), ("authorization_state", state.toJson)]

/-- Makes `body` the reply to `request`: an object body takes the request's correlation token,
whatever its kind, when the request has one. -/
def replyTo (request body : Json) : Json :=
  match request.get? "@extra", body.normalize with
  | some extra, reply@(.object _) => reply.set "@extra" extra
  | _, reply => reply

/-- The tag of a request, when it is a string. -/
def tagOf (request : Json) : Option String :=
  (request.get? "@type").bind Json.asString?

/-- A string field of a request; a missing field or one of another kind reads as empty. -/
def stringField (request : Json) (name : String) : String :=
  ((request.get? name).bind Json.asString?).getD ""

end Engine

/-- How the scripted engine expects sign-in to be completed. -/
inductive Login where
  /-- A user with a code, registered or not, with or without a password. -/
  | user (code : String) (registered : Bool) (password : Option String)
  /-- A bot whose token is asked for where a user's phone number would be. -/
  | bot (token : String)
  /-- A bot whose token is asked for in a state of its own. -/
  | botTokenState (token : String)
  deriving DecidableEq, Repr

/-- The token of a bot login. -/
def Login.botToken? : Login → Option String
  | .bot token | .botTokenState token => some token
  | .user .. => none

/-- The engine's side of sign-in: the expected login, whether the database is encrypted, and the
current state. -/
structure AuthFlow where
  login : Login
  encryptedDatabase : Bool := true
  state : AuthState := .waitParameters

namespace AuthFlow

/-- A registered user without a password. -/
def user (code : String) : AuthFlow := { login := .user code true none }

/-- A bot. -/
def bot (token : String) : AuthFlow := { login := .bot token }

/-- The state after the database is open: a bot with a state of its own waits for its token,
everyone else for a phone number. -/
def afterKey (flow : AuthFlow) : AuthState :=
  match flow.login with
  | .botTokenState _ => .waitBotToken
  | _ => .waitPhoneNumber

/-- The state a sign-in step leads to, or the error reply it gets; `none` when the request is no
step of sign-in. -/
def transition (flow : AuthFlow) (tag : String) (field : String → String) :
    Option (Except Json AuthState) :=
  let unexpected : Except Json AuthState :=
    .error (Engine.errorBody 400 ("Call to " ++ tag ++ " unexpected in " ++ flow.state.typeName))
  if tag = "setTdlibParameters" then
    some <| match flow.state with
      | .waitParameters =>
          .ok (if flow.encryptedDatabase then .waitEncryptionKey false else flow.afterKey)
      | _ => unexpected
  else if tag = "checkDatabaseEncryptionKey" then
    some <| match flow.state with
      | .waitEncryptionKey _ => .ok flow.afterKey
      | _ => unexpected
  else if tag = "setAuthenticationPhoneNumber" then
    some <| match flow.state, flow.login with
      | .waitPhoneNumber, .user _ registered _ => .ok (.waitCode registered)
      | _, _ => unexpected
  else if tag = "checkAuthenticationCode" then
    some <| match flow.state, flow.login with
      | .waitCode _, .user code _ password =>
          if field "code" ≠ code then .error (Engine.errorBody 400 "PHONE_CODE_INVALID")
          else if password.isSome then .ok (.waitPassword "" false "")
          else .ok .ready
      | _, _ => unexpected
  else if tag = "checkAuthenticationPassword" then
    some <| match flow.state, flow.login with
      | .waitPassword .., .user _ _ (some password) =>
          if field "password" = password then .ok .ready
          else .error (Engine.errorBody 400 "PASSWORD_HASH_INVALID")
      | _, _ => unexpected
  else if tag = "checkAuthenticationBotToken" then
    some <| match flow.state, flow.login.botToken? with
      | .waitPhoneNumber, some token | .waitBotToken, some token =>
          if field "token" = token then .ok .ready
          else .error (Engine.errorBody 401 "ACCESS_TOKEN_INVALID")
      | _, _ => unexpected
  else none

/-- Answers a request: the replies it gets, in order, and the flow after it. -/
def respond (flow : AuthFlow) (request : Json) : AuthFlow × List Json :=
  match Engine.tagOf request with
  | none => (flow, [Engine.replyTo request (Engine.errorBody 400 "Request must have @type")])
  | some tag =>
      if tag = "getAuthorizationState" then (flow, [Engine.replyTo request flow.state.toJson])
      else if tag = "close" then
        ({ flow with state := .closed },
          [Engine.stateUpdate .closing, Engine.replyTo request Engine.okBody,
            Engine.stateUpdate .closed])
      else
        match flow.transition tag (Engine.stringField request) with
        | none => (flow, [Engine.replyTo request Engine.okBody])
        | some (.ok next) =>
            ({ flow with state := next },
              [Engine.stateUpdate next, Engine.replyTo request Engine.okBody])
        | some (.error reply) => (flow, [Engine.replyTo request reply])

end AuthFlow

end Switchboard
