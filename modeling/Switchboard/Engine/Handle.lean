import Switchboard.Engine.Basic
import Switchboard.Engine.Error
import Switchboard.Wire.Request
import Switchboard.Text.Quoted

/-!
# Engine handles

A handle owns an engine and guards it with a turnstile: receiving and running a request in place
pass the turnstile one caller at a time, and a received message keeps it until its holder lets it
go, because the message's text lives in the engine's buffer until the next receive. Sending needs
no turnstile. Once the handle has destroyed the engine, every operation but sending's encoding is
refused as destroyed, and destroying again does nothing.

A handle let go of destroys its engine, unless a message is still held: then the engine is left
alone.
-/

namespace Switchboard

/-- A handle on an engine. -/
structure Handle where
  engine : Engine
  /-- The text of a received message still held, which keeps the turnstile. -/
  held : Option String := none

namespace Handle

/-- A handle on a fresh engine. -/
def new (engine : Engine) : Handle := { engine }

/-- Whether the engine has been destroyed. -/
def isDestroyed (h : Handle) : Bool := h.engine.destroyed

/-- Whether a held message keeps the turnstile. -/
def isBusy (h : Handle) : Bool := h.held.isSome

/-- Sends a request. -/
def send (h : Handle) (request : Request) : Except EngineError Handle :=
  if h.isDestroyed then .error .destroyed
  else .ok { h with engine := h.engine.send request.toText }

/-- Receives the next message, if one is queued. -/
def receive (h : Handle) : Except EngineError (Handle × Option String) :=
  if h.isDestroyed then .error .destroyed
  else
    let (engine, message) := h.engine.receive
    .ok ({ h with engine }, message)

/-- Runs a request in place; an engine with no answer rejects it. The responder sees the request
either way. -/
def execute (h : Handle) (request : Request) : Handle × Except EngineError String :=
  if h.isDestroyed then (h, .error .destroyed)
  else
    match h.engine.execute request.toText with
    | (engine, some message) => ({ h with engine }, .ok message)
    | (engine, none) => ({ h with engine }, .error (.rejected request.typeName))

/-- Destroys the engine, once. -/
def destroy (h : Handle) : Handle :=
  if h.isDestroyed then h else { h with engine := h.engine.destroy }

/-- How often the engine has been destroyed once the handle is let go of. -/
def countAfterDrop (h : Handle) : Nat :=
  (if h.isDestroyed || h.isBusy then h else h.destroy).engine.destroyCount

/-- The debugging text of a handle. -/
def debug (h : Handle) : String :=
  "EngineAdapter \x7b destroyed: " ++ toString h.isDestroyed ++ ", .. \x7d"

/-- The debugging text of a received message. -/
def messageDebug (text : String) : String :=
  "Message \x7b data: " ++ Text.quote text ++ " \x7d"

/-- The debugging text of a pass through the turnstile. -/
def guardDebug : String := "TurnstileGuard \x7b .. \x7d"

end Handle

end Switchboard
