import Switchboard.Auth.Authorize

/-!
# Scripted use of a client

A session is one holder's use of a client, step by step. The holder keeps its listeners by the
order in which it made them, names requests it sends in the background and the authorizers it
keeps, and owns a listener of its own.

Before each step the holder makes sure the dispatcher has caught up: it queues two marker events
in the engine and waits until its own listener has seen the second. Markers reach every listener;
reading a listener leaves them out. Once the holder has stopped the client it no longer does this,
and what a listener made before the stop holds then depends on timing, so it is not read.

Starting a client may sign in at once: a sign-in that does not end ready stops the client.
-/

namespace Switchboard

namespace Client

/-- Stops after a failed start: the engine is not asked to close. -/
def shutdown (c : Client) : Client := { c with stopRequested := true }.teardown

/-- Signs in with `h` on a new client; a sign-in that fails or ends without being ready stops
the client. `none` means the sign-in is stuck. -/
def startWith (c : Client) (h : Authorizer) : Authorizer × Client × Option (Except ClientError Unit) :=
  match h.authorize c with
  | (h, c, .done state) =>
      if state.isReady then (h, c, some (.ok ()))
      else (h, c.shutdown, some (.error (.authorization .closed)))
  | (h, c, .failed problem) => (h, c.shutdown, some (.error (.authorization problem)))
  | (h, c, .stuck) => (h, c, none)

/-- What an authorizer leaves to report: the history of a bot, and the text and result of a
terminal dialogue. -/
structure Report where
  history : Option (List AuthState) := none
  dialogue : Option (String × Option (Except AuthError Unit)) := none

/-- The report of an authorizer at the end of its run. -/
def report : Authorizer → Report
  | .bot b => { history := some b.history.states }
  | .interactive a => { dialogue := a.prompt.map fun p => (p.output, p.result) }

/-- One step of a session. -/
inductive Op where
  | send (request : Request)
  | sendInBackground (key : String) (request : Request)
  | await (key : String)
  | call (operation : Operation)
  | execute (operation : Operation)
  | executeRequest (request : Request)
  | pushEvent (event : Json)
  | listen
  | drain (index : Nat)
  | closeListener (index : Nat)
  | dropListener (index : Nat)
  | listenerCount
  | pendingCalls
  | isStopped
  | stop
  | forceStop
  | authorize (h : Authorizer)
  | settings
  | debug
  | lock
  | keepAuthorizer (name : String) (h : Authorizer)
  | authorizeKept (name : String)
  | handleState (name : String) (state : AuthState)
  | closeAuthorizer (name : String)
  | describeAuthorizer (name : String)
  | stateHistory (name : String)
  | supply (name : String) (answer : Answer)
  | supplyParameters (name : String) (parameters : Parameters)
  | sent
  | sentTypes
  | destroyCount

/-- The answer to one step. -/
inductive Outcome where
  | done
  | response (result : Except ClientError Envelope)
  | reply (result : Except ClientError ReplyValue)
  | listener (index : Nat) (active : Bool)
  | events (events : List Event) (ended : Bool)
  /-- What the listener holds depends on timing. -/
  | skipped
  | count (n : Nat)
  | flag (b : Bool)
  | text (s : String)
  | settings (s : Settings)
  | requests (sent : List Json)
  | names (types : List String)
  | signedIn (run : Run AuthState) (report : Report)
  | state (run : Run AuthState)
  | handled (run : Run Unit)
  | history (states : Option (List AuthState))
  | reported (states : List AuthState) (ended : Bool)
  | supplied (result : Handoff.Supplied) (input : String)
  | noListener (index : Nat)
  | noRequest (key : String)
  | noAuthorizer (name : String)
  /-- The authorizer has no such step. -/
  | unsupported (name : String)

/-- A client and what its holder keeps. -/
structure Session where
  client : Client
  /-- The tag of the marker events. -/
  marker : String
  /-- The holder's own listener. -/
  watcher : Nat
  markers : Nat := 0
  /-- Whether the holder has stopped the client. -/
  stopped : Bool := false
  /-- The holder's listeners by index: the registry id and whether it was made after a stop. -/
  listeners : List (Option (Nat × Bool)) := []
  /-- Requests sent in the background, by key. -/
  requests : List (String × Except ClientError InFlight) := []
  /-- Authorizers kept, by name. -/
  authorizers : List (String × Authorizer) := []

namespace Session

/-- A session over a client, with the holder's own listener registered. -/
def attach (client : Client) (marker : String) : Session :=
  let (client, watcher) := client.listen
  { client, marker, watcher }

/-- A marker event. -/
def markerEvent (marker : String) (seq : Nat) : Json :=
  .object [("@type", .string marker), ("seq", .number (Number.ofInt seq))]

/-- Waits for the dispatcher to catch up, unless the holder has stopped the client. -/
def sync (s : Session) : Session :=
  if s.stopped then s
  else
    let k := s.markers + 1
    let client := (s.client.pushEvent (markerEvent s.marker (2 * k - 1))).pushEvent
      (markerEvent s.marker (2 * k))
    let (registry, _) := client.registry.drain s.watcher
    { s with client := { client with registry }, markers := k }

/-- Runs a step on the listener kept under `index`. -/
def withListener (s : Session) (index : Nat) (f : Nat → Bool → Session × Outcome) :
    Session × Outcome :=
  match (s.listeners[index]?).getD none with
  | some (id, madeAfterStop) => f id madeAfterStop
  | none => (s, .noListener index)

/-- Runs a step on the authorizer kept under `name`. -/
def withAuthorizer (s : Session) (name : String)
    (f : Authorizer → Session × Outcome) : Session × Outcome :=
  match s.authorizers.find? (·.1 == name) with
  | some (_, h) => f h
  | none => (s, .noAuthorizer name)

/-- Keeps an authorizer under `name`. -/
def keep (s : Session) (name : String) (h : Authorizer) : Session :=
  { s with authorizers := (s.authorizers.filter (·.1 != name)) ++ [(name, h)] }

/-- Reads a listener until it is empty or closed, leaving markers out. -/
def drainListener (s : Session) (id : Nat) : Session × Outcome :=
  let closed := (s.client.registry.find? id).any (·.closed)
  let (registry, items) := s.client.registry.drain id
  ({ s with client := { s.client with registry } },
    .events (items.filter (·.typeName != s.marker)) closed)

/-- The number of listeners, the holder's own left out. -/
def listenerCount (s : Session) : Nat :=
  s.client.listenerCount - (if s.client.registry.members.contains s.watcher then 1 else 0)

/-- How long a supplier waits for room in a slot before giving up. -/
def supplyPatience : Duration := Duration.ofMillis 100

/-- Supplies a value to a kept interactive authorizer. -/
def supplyWith (s : Session) (name : String)
    (give : Interactive → Interactive × Handoff.Supplied × String) : Session × Outcome :=
  s.withAuthorizer name fun
    | .interactive a =>
        let (a, supplied, input) := give a
        let s := s.keep name (.interactive a)
        let s := if supplied == .full then { s with client := s.client.sleep supplyPatience } else s
        (s, .supplied supplied input)
    | .bot _ => (s, .unsupported name)

/-- Runs one step, the dispatcher having caught up. -/
def step (s : Session) : Op → Session × Outcome
  | .send request =>
      let (client, result) := s.client.send request
      ({ s with client }, .response result)
  | .sendInBackground key request =>
      let (client, flight) := s.client.sendInBackground request
      ({ s with client, requests := (s.requests.filter (·.1 != key)) ++ [(key, flight)] }, .done)
  | .await key =>
      match s.requests.find? (·.1 == key) with
      | none => (s, .noRequest key)
      | some (_, flight) =>
          let s := { s with requests := s.requests.filter (·.1 != key) }
          match flight with
          | .error problem => (s, .response (.error problem))
          | .ok flight =>
              let (client, result) := s.client.await flight
              ({ s with client }, .response result)
  | .call operation =>
      let (client, result) := s.client.call operation
      ({ s with client }, .reply result)
  | .execute operation =>
      let (client, result) := s.client.execute operation
      ({ s with client }, .reply result)
  | .executeRequest request =>
      let (client, result) := s.client.executeRequest request
      ({ s with client }, .response result)
  | .pushEvent event => ({ s with client := s.client.pushEvent event }, .done)
  | .listen =>
      let (client, id) := s.client.listen
      let active := (client.registry.find? id).any (·.isActive)
      ({ s with client, listeners := s.listeners ++ [some (id, s.stopped)] },
        .listener s.listeners.length active)
  | .drain index =>
      s.withListener index fun id madeAfterStop =>
        if s.stopped && !madeAfterStop then (s, .skipped) else s.drainListener id
  | .closeListener index =>
      s.withListener index fun id _ =>
        ({ s with client := { s.client with registry := s.client.registry.close id } }, .done)
  | .dropListener index =>
      s.withListener index fun id _ =>
        ({ s with client := { s.client with registry := s.client.registry.close id },
                  listeners := s.listeners.set index none }, .done)
  | .listenerCount => (s, .count s.listenerCount)
  | .pendingCalls => (s, .count s.client.pendingCalls)
  | .isStopped => (s, .flag s.client.isStopped)
  | .stop => ({ s with client := s.client.stop, stopped := true }, .done)
  | .forceStop => ({ s with client := s.client.forceStop, stopped := true }, .done)
  | .authorize h =>
      let (h, client, run) := h.authorize s.client
      ({ s with client }, .signedIn run (report h))
  | .settings => (s, .settings s.client.settings)
  | .debug => (s, .text s.client.debug)
  | .lock => (s, .text Handle.guardDebug)
  | .keepAuthorizer name h => (s.keep name h, .done)
  | .authorizeKept name =>
      s.withAuthorizer name fun h =>
        let (h, client, run) := h.authorize s.client
        ({ s.keep name h with client }, .state run)
  | .handleState name state =>
      s.withAuthorizer name fun h =>
        let (h, client, run) := h.handle s.client state
        ({ s.keep name h with client }, .handled run)
  | .closeAuthorizer name =>
      s.withAuthorizer name fun h => (s.keep name h.close, .done)
  | .describeAuthorizer name =>
      s.withAuthorizer name fun
        | .bot b => (s, .text b.debug)
        | .interactive _ => (s, .unsupported name)
  | .stateHistory name =>
      s.withAuthorizer name fun
        | .bot b =>
            let (b, states) := b.takeHistory
            (s.keep name (.bot b), .history states)
        | .interactive a =>
            let (history, states) := a.history.drain
            (s.keep name (.interactive { a with history }), .reported states history.ended)
  | .supply name answer => s.supplyWith name fun a => a.supply answer
  | .supplyParameters name parameters => s.supplyWith name fun a => a.supplyParameters parameters
  | .sent => (s, .requests s.client.handle.engine.sent)
  | .sentTypes => (s, .names s.client.handle.engine.sentTypes)
  | .destroyCount => (s, .count s.client.handle.engine.destroyCount)

/-- Runs the steps in order, catching up before each, and collects their outcomes. -/
def run (s : Session) : List Op → List Outcome
  | [] => []
  | op :: rest =>
      let (s', outcome) := s.sync.step op
      outcome :: run s' rest

end Session

end Client

end Switchboard
