import Switchboard.Engine.Handle

/-!
# Scripted use of an engine handle

A session is one caller's use of an engine handle, step by step. While the caller holds a received
message, every step that needs the turnstile would wait for ever; such a step is answered as busy
and changes nothing. Sending and destroying without the turnstile still go ahead.
-/

namespace Switchboard
namespace Engine

/-- One step of a session. -/
inductive Op where
  | pushEvent (event : Json)
  | send (request : Request)
  | receive
  | execute (request : Request)
  | destroy
  | destroyUnsynchronized
  | isDestroyed
  | destroyCount
  | pendingEvents
  | sent
  | sentTypes
  | receiveDebug
  | receiveHold
  | releaseHeld
  | lock
  | debug

/-- The answer to one step. -/
inductive Outcome where
  | done
  | refused (error : EngineError)
  /-- A held message keeps the turnstile, so the step would wait for ever. -/
  | busy
  | message (text : String)
  /-- A message received, described and let go of. -/
  | inspected (text : String)
  /-- A message received and kept. -/
  | held (text : String)
  | timedOut
  | flag (b : Bool)
  | count (n : Nat)
  | requests (sent : List Json)
  | names (types : List String)
  | text (s : String)

/-- Receives for a step that needs the turnstile; `keep` tells what becomes of a message. -/
def receiveWith (h : Handle) (keep : Handle → String → Handle × Outcome) : Handle × Outcome :=
  if h.isBusy then (h, .busy)
  else
    match h.receive with
    | .error e => (h, .refused e)
    | .ok (h, none) => (h, .timedOut)
    | .ok (h, some text) => keep h text

/-- Runs one step. -/
def step (h : Handle) : Op → Handle × Outcome
  | .pushEvent event => ({ h with engine := h.engine.pushEvent event }, .done)
  | .send request =>
      match h.send request with
      | .ok h => (h, .done)
      | .error e => (h, .refused e)
  | .receive => receiveWith h fun h text => (h, .message text)
  | .receiveDebug => receiveWith h fun h text => (h, .inspected text)
  | .receiveHold => receiveWith h fun h text => ({ h with held := some text }, .held text)
  | .execute request =>
      if h.isBusy then (h, .busy)
      else
        match h.execute request with
        | (h, .ok text) => (h, .message text)
        | (h, .error e) => (h, .refused e)
  | .destroy => if h.isBusy then (h, .busy) else (h.destroy, .done)
  | .destroyUnsynchronized => (h.destroy, .done)
  | .isDestroyed => (h, .flag h.isDestroyed)
  | .destroyCount => (h, .count h.engine.destroyCount)
  | .pendingEvents => (h, .count h.engine.pendingEvents)
  | .sent => (h, .requests h.engine.sent)
  | .sentTypes => (h, .names h.engine.sentTypes)
  | .releaseHeld => ({ h with held := none }, .flag h.isBusy)
  | .lock => if h.isBusy then (h, .busy) else (h, .text Handle.guardDebug)
  | .debug => (h, .text h.debug)

/-- Runs the steps in order; returns the outcomes and the handle after the last one. -/
def run (h : Handle) : List Op → List Outcome × Handle
  | [] => ([], h)
  | op :: rest =>
      let (h', outcome) := step h op
      let (outcomes, last) := run h' rest
      (outcome :: outcomes, last)

end Engine
end Switchboard
