import Switchboard.Json.Error

/-!
# Errors of the wire format

A message can fail to be read in four ways: its text is not JSON of the wanted shape, it has no
readable `@type` tag, a request payload is not an object, or a reply carries another tag than the
caller waits for.
-/

namespace Switchboard

/-- Why a message could not be read or written. -/
inductive WireError where
  /-- The text is not JSON, or not of the wanted shape. -/
  | json (error : DecodeError)
  /-- The message has no `@type` tag that is a string. -/
  | missingType
  /-- A request payload was not an object. -/
  | notAnObject (typeName : String)
  /-- A reply carried the tag `actual` where one accepted as `expected` was awaited. -/
  | unexpectedType (expected actual : String)
  deriving DecidableEq, Repr

/-- The text of a wire error. -/
def WireError.message : WireError → String
  | .json error => "JSON error: " ++ error.message
  | .missingType => "message has no @type tag"
  | .notAnObject typeName => "request payload for " ++ typeName ++ " is not a JSON object"
  | .unexpectedType expected actual =>
      "unexpected reply type: expected " ++ expected ++ ", got " ++ actual

end Switchboard
