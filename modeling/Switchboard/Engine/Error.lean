import Switchboard.Wire.Error

/-!
# Errors of an engine handle

An engine handle refuses work once the engine is gone, and passes on the engine's refusal of a
request it cannot read. Requests are written as text for the engine, so a request whose text
would hold a NUL byte cannot be sent at all.
-/

namespace Switchboard

/-- Why an engine handle could not do what was asked. -/
inductive EngineError where
  /-- The engine has been destroyed; nothing more can be sent or received. -/
  | destroyed
  /-- The engine gave no answer to a request run in place. -/
  | rejected (typeName : String)
  /-- The request's text would hold a NUL byte. -/
  | invalidRequest (typeName : String)
  /-- A message could not be written or read. -/
  | wire (error : WireError)
  deriving DecidableEq, Repr

/-- The text of an engine error. -/
def EngineError.message : EngineError → String
  | .destroyed => "engine has been destroyed"
  | .rejected typeName => "engine rejected request " ++ typeName ++ ": request can't be parsed"
  | .invalidRequest typeName => "request " ++ typeName ++ " contains a NUL byte"
  | .wire error => "wire error: " ++ error.message

end Switchboard
