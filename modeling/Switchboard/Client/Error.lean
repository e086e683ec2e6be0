import Switchboard.Engine.Error
import Switchboard.Wire.Envelope
import Switchboard.Client.Settings

/-!
# Errors of the client and of sign-in

A client call fails because its reply did not come in time, the engine answered with an error,
its correlation token was taken, the reply could not be read, the client stopped, the request
cannot run in place, the engine handle refused it, the settings were invalid, or sign-in failed.
Sign-in in turn fails through a client call, an input that was closed before it gave a value, a
state it does not know how to answer, the engine closing, or the terminal. The two kinds hold
each other, so they are one mutual family.

An engine handle's errors reach the client in three ways: a destroyed engine means the client has
stopped, an unreadable message is a decoding error, and every other refusal is the handle's.
-/

namespace Switchboard

mutual

/-- Why a client call failed. -/
inductive ClientError where
  /-- No reply came for a request within the given time. -/
  | timeout (typeName : String) (after : Duration)
  /-- The engine answered with an error. -/
  | engine (reply : ErrorReply)
  /-- The correlation token is already in use by a pending call. -/
  | duplicateToken (token : String)
  /-- A message could not be read. -/
  | decode (error : WireError)
  /-- The client has stopped. -/
  | stopped
  /-- The request cannot be run in place. -/
  | notSynchronous (typeName : String)
  /-- The engine handle refused the work. -/
  | adapter (error : EngineError)
  /-- The settings are invalid. -/
  | config (error : SettingsError)
  /-- Sign-in failed. -/
  | authorization (error : AuthError)

/-- Why sign-in failed. -/
inductive AuthError where
  /-- A client call made during sign-in failed. -/
  | client (error : ClientError)
  /-- The named input was closed before it gave a value. -/
  | slotClosed (input : String)
  /-- The engine reached a state this way of signing in cannot answer. -/
  | unsupportedState (typeName : String)
  /-- The engine closed during sign-in. -/
  | closed
  /-- Reading or writing the terminal failed. -/
  | io (reason : String)

end

mutual

/-- The text of a client error. -/
def ClientError.message : ClientError → String
  | .timeout typeName after => "request " ++ typeName ++ " timed out after " ++ after.debug
  | .engine reply => "engine error " ++ toString reply.code.toInt ++ ": " ++ reply.message
  | .duplicateToken token => "correlation token " ++ token ++ " is already pending"
  | .decode error => "decode error: " ++ error.message
  | .stopped => "client stopped"
  | .notSynchronous typeName => typeName ++ " cannot be executed synchronously"
  | .adapter error => "engine adapter: " ++ error.message
  | .config error => "configuration: " ++ error.message
  | .authorization error => "authorization failed: " ++ error.message

/-- The text of a sign-in error. -/
def AuthError.message : AuthError → String
  | .client error => error.message
  | .slotClosed input => input ++ " input closed"
  | .unsupportedState typeName => "unsupported authorization state: " ++ typeName
  | .closed => "engine closed during authorization"
  | .io reason => "terminal i/o: " ++ reason

end

/-- How an engine handle's refusal reaches the client. -/
def ClientError.ofEngine : EngineError → ClientError
  | .destroyed => .stopped
  | .wire error => .decode error
  | other => .adapter other

end Switchboard
