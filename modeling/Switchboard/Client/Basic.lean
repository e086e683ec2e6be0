import Switchboard.Client.Correlation
import Switchboard.Engine.Handle
import Switchboard.Bus.Registry
import Switchboard.Wire.Event

/-!
# The client

A client drives one engine for many callers. It sends each request with a fresh correlation token
and waits, up to the send timeout, for the reply with that token. A dispatcher receives every
message the engine hands out: a reply goes to the caller waiting for its token, and every message
that reads as an event, replies included, is broadcast to the client's listeners. When a broadcast
finds a listener closed or disconnects one, the registry is collected at once.

The dispatcher keeps up with the engine: a message is dispatched as soon as the engine has queued
it. So a caller waiting for a reply either has it at once or waits until its time runs out; the
client keeps a clock that such waits move forward. Callers may also wait in the background; their
time runs out when the clock passes their deadline, whatever else is going on.

Stopping asks the engine to close, then destroys it, closes every listener and forgets every
pending call, whose callers learn that the client stopped. Stopping at once skips the request.
-/

namespace Switchboard

/-- A request sent and waiting for its reply. -/
structure InFlight where
  call : Call
  /-- When, on the client's clock, waiting for the reply gives up. -/
  deadline : Nat
  /-- Whether the wait has already given up. -/
  expired : Bool := false

/-- The state of a client. -/
structure Client where
  settings : Settings
  handle : Handle
  table : CorrelationTable := {}
  registry : Registry Event
  /-- The token of the `n`-th request, counting from one. -/
  tokens : Nat → String
  drawn : Nat := 0
  stopRequested : Bool := false
  stopping : Bool := false
  /-- The clock, in nanoseconds. -/
  now : Nat := 0
  /-- Requests whose callers wait in the background. -/
  background : List InFlight := []

namespace Client

/-- The result a reply stands for: an error reply is the engine's error, and a reply that cannot
be read is a decoding error. -/
def outcomeOf (reply : Envelope) : Except ClientError Envelope :=
  match reply.intoResult with
  | .ok (.ok reply) => .ok reply
  | .ok (.error problem) => .error (.engine problem)
  | .error problem => .error (.decode problem)

/-- Dispatches one message: a reply is handed to its caller, and whatever reads as an event is
broadcast. -/
def dispatchMessage (c : Client) (text : String) : Client :=
  match Envelope.ofBytes text.toUTF8 with
  | .error _ => c
  | .ok message =>
      let c := if message.isReply then { c with table := (c.table.complete message).1 } else c
      match Event.ofBytes message.data with
      | .error _ => c
      | .ok event => { c with registry := c.registry.publish event }

/-- Dispatches at most `fuel` queued messages, stopping once the client stops. -/
def dispatchFor (c : Client) : Nat → Client
  | 0 => c
  | fuel + 1 =>
      if c.stopping then c
      else
        match c.handle.receive with
        | .ok (handle, some text) => dispatchFor ({ c with handle }.dispatchMessage text) fuel
        | _ => c

/-- Dispatches every queued message. -/
def dispatch (c : Client) : Client := c.dispatchFor c.handle.engine.pendingEvents

/-- A running client over an engine, if the settings are valid. -/
def spawn (settings : Settings) (engine : Engine) (tokens : Nat → String) :
    Except ClientError Client :=
  match settings.validate with
  | .error problem => .error (.config problem)
  | .ok () =>
      let registry := Registry.withPolicy settings.listenerCapacity settings.overflowPolicy
      .ok (Client.dispatch { settings, handle := Handle.new engine, tokens, registry })

/-- Moves the clock to `time`; background waits whose deadline has come give up. -/
def advance (c : Client) (time : Nat) : Client :=
  let step := fun (acc : CorrelationTable × List InFlight) (flight : InFlight) =>
    if flight.expired || flight.deadline > time then (acc.1, acc.2 ++ [flight])
    else
      match acc.1.expire flight.call with
      | (table, true) => (table, acc.2 ++ [{ flight with expired := true }])
      | (table, false) => (table, acc.2 ++ [flight])
  let (table, background) := c.background.foldl step (c.table, [])
  { c with table, background, now := max c.now time }

/-- Lets time pass. -/
def sleep (c : Client) (d : Duration) : Client := c.advance (c.now + d.nanos)

/-- Sends a request under a fresh token; the caller then waits for it. -/
def submit (c : Client) (request : Request) : Client × Except ClientError InFlight :=
  if c.stopping then (c, .error .stopped)
  else
    let drawn := c.drawn + 1
    let token := c.tokens drawn
    let c := { c with drawn }
    match c.table.register token request.typeName with
    | (table, .error problem) => ({ c with table }, .error problem)
    | (table, .ok call) =>
        let c := { c with table }
        match c.handle.send (request.withExtra token) with
        | .error problem => ({ c with table := c.table.cancel call }, .error (.ofEngine problem))
        | .ok handle =>
            ({ c with handle }.dispatch,
              .ok { call, deadline := c.now + c.settings.sendTimeout.nanos })

/-- Waits for the reply to a request, until its deadline. -/
def finish (c : Client) (flight : InFlight) : Client × Except ClientError Envelope :=
  let c := { c with background := c.background.filter (·.call != flight.call) }
  let timedOut := ClientError.timeout flight.call.typeName c.settings.sendTimeout
  if flight.expired then (c, .error timedOut)
  else
    match c.table.takeReply flight.call with
    | (table, some reply) => ({ c with table }, outcomeOf reply)
    | (table, none) =>
        match table.expire flight.call with
        | (table, true) => ({ c with table }.advance flight.deadline, .error timedOut)
        | (table, false) => ({ c with table }, .error .stopped)

/-- Sends a request and waits for its reply. -/
def send (c : Client) (request : Request) : Client × Except ClientError Envelope :=
  match c.submit request with
  | (c, .ok flight) => c.finish flight
  | (c, .error problem) => (c, .error problem)

/-- Sends a request whose caller waits in the background. -/
def sendInBackground (c : Client) (request : Request) : Client × Except ClientError InFlight :=
  match c.submit request with
  | (c, .ok flight) => ({ c with background := c.background ++ [flight] }, .ok flight)
  | (c, .error problem) => (c, .error problem)

/-- Waits for a request sent in the background. -/
def await (c : Client) (flight : InFlight) : Client × Except ClientError Envelope :=
  c.finish ((c.background.find? (·.call == flight.call)).getD flight)

/-- Sends an operation and reads its reply. -/
def call (c : Client) (operation : Operation) : Client × Except ClientError ReplyValue :=
  match c.send operation.toRequest with
  | (c, .ok reply) =>
      match reply.decodeReply operation.replyKind with
      | .ok value => (c, .ok value)
      | .error problem => (c, .error (.decode problem))
  | (c, .error problem) => (c, .error problem)

/-- Runs a request in place, without the dispatcher. -/
def executeRequest (c : Client) (request : Request) : Client × Except ClientError Envelope :=
  match c.handle.execute request with
  | (handle, .error problem) => ({ c with handle }, .error (.ofEngine problem))
  | (handle, .ok text) =>
      match Envelope.ofBytes text.toUTF8 with
      | .ok reply => ({ c with handle }, outcomeOf reply)
      | .error problem => ({ c with handle }, .error (.decode problem))

/-- Runs an operation in place and reads its reply; only operations the engine answers at once
can run so. -/
def execute (c : Client) (operation : Operation) : Client × Except ClientError ReplyValue :=
  if !operation.synchronous then (c, .error (.notSynchronous operation.typeName))
  else
    match c.executeRequest operation.toRequest with
    | (c, .ok reply) =>
        match reply.decodeReply operation.replyKind with
        | .ok value => (c, .ok value)
        | .error problem => (c, .error (.decode problem))
    | (c, .error problem) => (c, .error problem)

/-- Registers a listener; one registered while the client stops is closed at once. -/
def listen (c : Client) : Client × Nat :=
  let (registry, id) := c.registry.register
  ({ c with registry := if c.stopping then registry.close id else registry }, id)

/-- Queues an event in the engine, as if the engine had produced it. -/
def pushEvent (c : Client) (event : Json) : Client :=
  { c with handle := { c.handle with engine := c.handle.engine.pushEvent event } }.dispatch

/-- The number of calls waiting for replies. -/
def pendingCalls (c : Client) : Nat := c.table.pendingCount

/-- The number of registered listeners. -/
def listenerCount (c : Client) : Nat := c.registry.len

/-- Whether the client has stopped and its engine is destroyed. -/
def isStopped (c : Client) : Bool := c.stopping && c.handle.isDestroyed

/-- Destroys the engine, closes the listeners and forgets the pending calls. -/
def teardown (c : Client) : Client :=
  { c with stopping := true, handle := c.handle.destroy, registry := c.registry.closeAll,
           table := c.table.clear }

/-- Stops gracefully, once: asks the engine to close, whatever the answer, then tears down. -/
def stop (c : Client) : Client :=
  if c.stopRequested then c
  else (({ c with stopRequested := true } : Client).call .close).1.teardown

/-- Stops at once. -/
def forceStop (c : Client) : Client := { c with stopRequested := true }.teardown

/-- The debugging text of a client. -/
def debug (c : Client) : String :=
  "Client \x7b pending_calls: " ++ toString c.pendingCalls ++ ", listeners: " ++
    toString c.listenerCount ++ ", stopping: " ++ toString c.stopping ++ " \x7d"

end Client

end Switchboard
