import Switchboard.Engine.Responder
import Switchboard.Json.Reader

/-!
# The scripted engine

An engine takes requests as JSON text and hands out messages as JSON text. The scripted engine
reads each request sent to it, keeps it in its log, and queues the messages its responder answers
with; a receive takes the oldest queued message. A request run in place gets the responder's first
answer directly, queues nothing and is not logged. Events can be queued from outside.

Messages are written in the compact form with the keys of every object in order. Destroying the
engine drops every queued message, and from then on nothing is received. The engine counts how
often it was destroyed.
-/

namespace Switchboard

/-- The state of a scripted engine. -/
structure Engine where
  responder : Responder
  /-- Messages waiting to be received, oldest first. -/
  inbox : List String := []
  /-- Every request read from a send, in order. -/
  sent : List Json := []
  destroyed : Bool := false
  destroyCount : Nat := 0

namespace Engine

/-- An engine with nothing queued. -/
def new (responder : Responder) : Engine := { responder }

/-- The text of a message. -/
def encode (message : Json) : String := message.normalize.compact

/-- Queues messages. -/
def enqueue (e : Engine) (messages : List Json) : Engine :=
  { e with inbox := e.inbox ++ messages.map encode }

/-- An engine that plays sign-in and announces its first state at once. -/
def withAuthFlow (flow : AuthFlow) : Engine :=
  (new (.authFlow flow)).enqueue [stateUpdate .waitParameters]

/-- Queues an event from outside. -/
def pushEvent (e : Engine) (event : Json) : Engine := e.enqueue [event]

/-- Reads a request's text; text that is not JSON is ignored. -/
def send (e : Engine) (text : String) : Engine :=
  match Json.parseBytes text.toUTF8 with
  | .error _ => e
  | .ok value =>
      let request := value.normalize
      let (responder, replies) := e.responder.respond request
      { e with responder, sent := e.sent ++ [request] }.enqueue replies

/-- Takes the oldest queued message; nothing once destroyed. -/
def receive (e : Engine) : Engine × Option String :=
  if e.destroyed then (e, none)
  else
    match e.inbox with
    | message :: rest => ({ e with inbox := rest }, some message)
    | [] => (e, none)

/-- Runs a request in place: the responder's first answer, if any. -/
def execute (e : Engine) (text : String) : Engine × Option String :=
  match Json.parseBytes text.toUTF8 with
  | .error _ => (e, none)
  | .ok value =>
      let (responder, replies) := e.responder.respond value.normalize
      ({ e with responder }, replies.head?.map encode)

/-- Destroys the engine, dropping what was queued. -/
def destroy (e : Engine) : Engine :=
  { e with destroyed := true, destroyCount := e.destroyCount + 1, inbox := [] }

/-- The number of queued messages. -/
def pendingEvents (e : Engine) : Nat := e.inbox.length

/-- The tags of the logged requests. -/
def sentTypes (e : Engine) : List String := e.sent.filterMap tagOf

end Engine

end Switchboard
