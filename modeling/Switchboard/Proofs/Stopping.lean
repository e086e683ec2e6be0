import Switchboard.Client.Session
import Switchboard.Proofs.Send
import Switchboard.Proofs.Registry

/-!
# Stopping a client

A client's life has two parts. While it runs, no stop has been asked for and its engine lives and
was never destroyed. Once it has stopped, its engine was destroyed exactly once, no call is
pending and every registered listener is closed. Nothing but a stop moves a client from the first
part to the second: every other operation, sign-in included, leaves the four facts of a client's
life as they are (`Client.Steady`).

A stop is final. Whatever follows it, the engine logs no further request and is not destroyed
again, every send, call and in-place run of a synchronous operation answers that the client
stopped (an operation that cannot run in place is refused as such first), a listener made then is
closed at once, and no call is pending. The graceful stop is the only one that talks to the
engine: it sends the close request, and nothing else, once; stopping at once and the stop after a
failed start send nothing. Tearing down closes every registered listener and keeps its queue.
-/

namespace Switchboard

namespace Engine

/-- What the engine logs from a request text: the request, when the text reads as JSON. -/
def logs (text : String) : List Json :=
  match Json.parseBytes text.toUTF8 with
  | .ok value => [value.normalize]
  | .error _ => []

theorem sent_send (e : Engine) (text : String) : (e.send text).sent = e.sent ++ logs text := by
  unfold send logs
  cases Json.parseBytes text.toUTF8 <;> simp [enqueue]

@[simp] theorem send_destroyCount (e : Engine) (text : String) :
    (e.send text).destroyCount = e.destroyCount := by
  unfold send
  split <;> rfl

@[simp] theorem receive_destroyed (e : Engine) : e.receive.1.destroyed = e.destroyed := by
  unfold receive
  split
  · rfl
  · split <;> rfl

@[simp] theorem receive_destroyCount (e : Engine) : e.receive.1.destroyCount = e.destroyCount := by
  unfold receive
  split
  · rfl
  · split <;> rfl

@[simp] theorem receive_sent (e : Engine) : e.receive.1.sent = e.sent := by
  unfold receive
  split
  · rfl
  · split <;> rfl

@[simp] theorem execute_destroyed (e : Engine) (text : String) :
    (e.execute text).1.destroyed = e.destroyed := by
  unfold execute
  split <;> rfl

@[simp] theorem execute_destroyCount (e : Engine) (text : String) :
    (e.execute text).1.destroyCount = e.destroyCount := by
  unfold execute
  split <;> rfl

end Engine

namespace Handle

/-- A receive only takes from the engine's queue. -/
theorem life_of_receive {h h' : Handle} {message : Option String}
    (received : h.receive = .ok (h', message)) :
    h'.engine.destroyed = h.engine.destroyed ∧ h'.engine.destroyCount = h.engine.destroyCount ∧
      h'.engine.sent = h.engine.sent := by
  unfold receive at received
  split at received
  · cases received
  · simp only [Except.ok.injEq, Prod.mk.injEq] at received
    obtain ⟨rfl, -⟩ := received
    simp

/-- A send hands the engine the request's text and nothing else. -/
theorem life_of_send {h h' : Handle} {request : Request} (sent : h.send request = .ok h') :
    h'.engine.destroyed = h.engine.destroyed ∧ h'.engine.destroyCount = h.engine.destroyCount ∧
      h'.engine.sent = h.engine.sent ++ Engine.logs request.toText := by
  unfold send at sent
  split at sent
  · cases sent
  · cases sent
    exact ⟨Engine.send_destroyed _ _, Engine.send_destroyCount _ _, Engine.sent_send _ _⟩

/-- Running a request in place changes the engine's responder at most. -/
theorem life_of_execute (h : Handle) (request : Request) :
    (h.execute request).1.engine.destroyed = h.engine.destroyed ∧
      (h.execute request).1.engine.destroyCount = h.engine.destroyCount := by
  unfold execute
  split
  · exact ⟨rfl, rfl⟩
  · have destroyed := Engine.execute_destroyed h.engine request.toText
    have destroyCount := Engine.execute_destroyCount h.engine request.toText
    split <;>
      (rename_i ran; rw [ran] at destroyed destroyCount; exact ⟨destroyed, destroyCount⟩)

end Handle

namespace Registry

variable {α : Type} {r : Registry α}

/-- Every registered listener is closed. -/
def AllClosed (r : Registry α) : Prop :=
  ∀ id ∈ r.members, ∀ l, r.find? id = some l → l.closed = true

theorem allClosed_closeAll (r : Registry α) : r.closeAll.AllClosed := by
  intro id member
  simp [closeAll] at member

theorem find?_registerWith_of_ne (capacity : Nat) (policy : OverflowPolicy) {id : Nat}
    (other : id ≠ r.nextId) : (r.registerWith capacity policy).1.find? id = r.find? id := by
  simp only [registerWith, find?, List.find?_append]
  cases r.listeners.find? (·.id == id) <;> simp [Listener.new, Ne.symm other]

/-- Changing listeners so that a closed one stays closed keeps every registered one closed. -/
theorem AllClosed.modify (closed : r.AllClosed) (id : Nat) (f : Listener α → Listener α)
    (keeps : ∀ l, l.id = id → (f l).id = id)
    (stays : ∀ l, r.find? id = some l → l.closed = true → (f l).closed = true) :
    (r.modify id f).AllClosed := by
  intro j member l found
  rw [find?_modify id j f keeps] at found
  split at found
  · obtain ⟨l₀, found₀, rfl⟩ := Option.map_eq_some_iff.mp found
    rename_i same
    subst same
    exact stays l₀ found₀ (closed j member l₀ found₀)
  · exact closed j member l found

theorem AllClosed.close (closed : r.AllClosed) (id : Nat) : (r.close id).AllClosed :=
  closed.modify id _ (fun _ same => same) fun _ _ _ => rfl

theorem AllClosed.drain (closed : r.AllClosed) (id : Nat) : (r.drain id).1.AllClosed := by
  unfold Registry.drain
  split
  · rename_i l found
    have same : l.drain.1.id = id := (id_of_find? found : l.id = id)
    refine closed.modify id _ (fun _ _ => same) fun l₀ found₀ stillClosed => ?_
    rw [found] at found₀
    cases found₀
    exact stillClosed
  · exact closed

/-- A listener made on a registry whose listeners are all closed and closed at once keeps them
all closed. -/
theorem AllClosed.register_close (closed : r.AllClosed) :
    (r.register.1.close r.register.2).AllClosed := by
  intro j member l found
  simp only [Registry.close, register] at found
  rw [find?_modify _ j Listener.close fun _ same => same] at found
  split at found
  · obtain ⟨l₀, -, rfl⟩ := Option.map_eq_some_iff.mp found
    rfl
  · rename_i other
    rw [find?_registerWith_of_ne _ _ other] at found
    simp only [Registry.close, register, registerWith, modify_members, List.mem_append,
      List.mem_singleton] at member
    rcases member with registered | fresh
    · exact closed j registered l found
    · exact absurd fresh other

/-- Closing the listeners `ids` one after another closes each listener named there and leaves
its queue. -/
theorem find?_foldl_close (ids : List Nat) (r : Registry α) (id : Nat) :
    (ids.foldl (fun acc i => acc.close i) r).find? id =
      if id ∈ ids then (r.find? id).map Listener.close else r.find? id := by
  induction ids generalizing r with
  | nil => simp
  | cons i rest ih =>
      rw [List.foldl_cons, ih, Registry.close, find?_modify i id Listener.close fun _ same => same]
      by_cases here : id = i
      · subst here
        -- closing twice is closing once
        have twice : Listener.close ∘ Listener.close =
            (Listener.close : Listener α → Listener α) := rfl
        simp [Option.map_map, twice]
      · by_cases later : id ∈ rest <;> simp [here, later]

theorem find?_closeAll (r : Registry α) (id : Nat) :
    r.closeAll.find? id =
      if id ∈ r.members then (r.find? id).map Listener.close else r.find? id :=
  find?_foldl_close r.members r id

end Registry

namespace Client

variable {c c' c'' : Client}

/-- A change that leaves a client's life as it is: whether a stop was asked for, whether it is
stopping, whether its engine was destroyed and how often. -/
structure Steady (c c' : Client) : Prop where
  stopRequested : c'.stopRequested = c.stopRequested
  stopping : c'.stopping = c.stopping
  destroyed : c'.handle.engine.destroyed = c.handle.engine.destroyed
  destroyCount : c'.handle.engine.destroyCount = c.handle.engine.destroyCount

theorem Steady.refl (c : Client) : c.Steady c := ⟨rfl, rfl, rfl, rfl⟩

theorem Steady.trans (first : c.Steady c') (second : c'.Steady c'') : c.Steady c'' :=
  ⟨second.stopRequested.trans first.stopRequested, second.stopping.trans first.stopping,
    second.destroyed.trans first.destroyed, second.destroyCount.trans first.destroyCount⟩

/-- A change of the table, the listeners, the clock or the waits only. -/
theorem steady_of_handle (handle : c'.handle = c.handle)
    (stopRequested : c'.stopRequested = c.stopRequested) (stopping : c'.stopping = c.stopping) :
    c.Steady c' :=
  ⟨stopRequested, stopping, by rw [handle], by rw [handle]⟩

theorem steady_dispatchMessage (c : Client) (text : String) :
    c.Steady (c.dispatchMessage text) := by
  rw [dispatchMessage_eq]
  exact ⟨rfl, rfl, rfl, rfl⟩

theorem steady_dispatchFor (c : Client) (fuel : Nat) : c.Steady (c.dispatchFor fuel) := by
  induction fuel generalizing c with
  | zero => exact .refl c
  | succ fuel ih =>
      unfold dispatchFor
      split
      · exact .refl c
      · split
        · rename_i handle text received
          obtain ⟨destroyed, destroyCount, -⟩ := Handle.life_of_receive received
          have taken : c.Steady { c with handle } := ⟨rfl, rfl, destroyed, destroyCount⟩
          exact taken.trans ((steady_dispatchMessage _ text).trans (ih _))
        · exact .refl c

theorem steady_dispatch (c : Client) : c.Steady c.dispatch := steady_dispatchFor c _

theorem steady_submit (c : Client) (request : Request) : c.Steady (c.submit request).1 := by
  unfold submit
  split
  · exact .refl c
  · dsimp only
    split
    · exact ⟨rfl, rfl, rfl, rfl⟩
    · split
      · exact ⟨rfl, rfl, rfl, rfl⟩
      · rename_i handle sent
        obtain ⟨destroyed, destroyCount, -⟩ := Handle.life_of_send sent
        refine Steady.trans ?_ (steady_dispatch _)
        exact ⟨rfl, rfl, destroyed, destroyCount⟩

theorem steady_advance (c : Client) (time : Nat) : c.Steady (c.advance time) :=
  steady_of_handle rfl rfl rfl

theorem steady_sleep (c : Client) (d : Duration) : c.Steady (c.sleep d) := steady_advance c _

theorem steady_finish (c : Client) (flight : InFlight) : c.Steady (c.finish flight).1 := by
  unfold finish
  dsimp only
  split
  · exact ⟨rfl, rfl, rfl, rfl⟩
  · split
    · exact ⟨rfl, rfl, rfl, rfl⟩
    · split <;> exact ⟨rfl, rfl, rfl, rfl⟩

theorem steady_send (c : Client) (request : Request) : c.Steady (c.send request).1 := by
  unfold send
  split
  · rename_i submitted flight chosen
    have first := steady_submit c request
    rw [chosen] at first
    exact first.trans (steady_finish _ flight)
  · rename_i submitted problem chosen
    have first := steady_submit c request
    rwa [chosen] at first

theorem steady_sendInBackground (c : Client) (request : Request) :
    c.Steady (c.sendInBackground request).1 := by
  unfold sendInBackground
  split
  · rename_i submitted flight chosen
    have first := steady_submit c request
    rw [chosen] at first
    exact first.trans ⟨rfl, rfl, rfl, rfl⟩
  · rename_i submitted problem chosen
    have first := steady_submit c request
    rwa [chosen] at first

theorem steady_await (c : Client) (flight : InFlight) : c.Steady (c.await flight).1 :=
  steady_finish c _

theorem steady_call (c : Client) (operation : Operation) : c.Steady (c.call operation).1 := by
  unfold call
  have sent := steady_send c operation.toRequest
  split
  · rename_i after reply chosen
    rw [chosen] at sent
    split <;> exact sent
  · rename_i after problem chosen
    rwa [chosen] at sent

theorem steady_executeRequest (c : Client) (request : Request) :
    c.Steady (c.executeRequest request).1 := by
  have ran : c.Steady { c with handle := (c.handle.execute request).1 } :=
    ⟨rfl, rfl, (Handle.life_of_execute c.handle request).1,
      (Handle.life_of_execute c.handle request).2⟩
  unfold executeRequest
  split
  · rename_i handle problem chosen
    rwa [chosen] at ran
  · rename_i handle text chosen
    rw [chosen] at ran
    split <;> exact ran

theorem steady_execute (c : Client) (operation : Operation) :
    c.Steady (c.execute operation).1 := by
  unfold execute
  split
  · exact .refl c
  · have ran := steady_executeRequest c operation.toRequest
    split
    · rename_i after reply chosen
      rw [chosen] at ran
      split <;> exact ran
    · rename_i after problem chosen
      rwa [chosen] at ran

theorem steady_listen (c : Client) : c.Steady c.listen.1 := steady_of_handle rfl rfl rfl

theorem steady_pushEvent (c : Client) (event : Json) : c.Steady (c.pushEvent event) := by
  refine Steady.trans ?_ (steady_dispatch _)
  exact ⟨rfl, rfl, rfl, rfl⟩

theorem steady_perform (c : Client) (operation : Operation) :
    c.Steady (c.perform operation).1 := by
  unfold perform
  have called := steady_call c operation
  split
  · rename_i after reply chosen
    rwa [chosen] at called
  · rename_i after problem chosen
    rwa [chosen] at called

theorem steady_authState (c : Client) : c.Steady c.authState.1 := by
  unfold authState
  have called := steady_call c .getAuthorizationState
  split <;> (rename_i chosen; rw [chosen] at called; exact called)

/-- What an authorizer's answer to one state does with the client: nothing, or one call. -/
def Answered (c c' : Client) : Prop := c' = c ∨ ∃ operation, c' = (c.perform operation).1

theorem Answered.stays (c : Client) : c.Answered c := .inl rfl

theorem Answered.calls (c : Client) (operation : Operation) : c.Answered (c.perform operation).1 :=
  .inr ⟨operation, rfl⟩

theorem Answered.steady (answered : Answered c c') : c.Steady c' := by
  rcases answered with rfl | ⟨operation, rfl⟩
  · exact .refl _
  · exact steady_perform _ operation

end Client

theorem Bot.answered_handle (b : Bot) (c : Client) (state : AuthState) :
    c.Answered (b.handle c state).2.1 := by
  unfold Bot.handle
  cases state <;> dsimp only
  case waitEncryptionKey => exact .calls c _
  -- parameters and the token are refused once the bot is closed
  case waitParameters | waitPhoneNumber | waitBotToken =>
    split
    · exact .stays c
    · exact .calls c _
  all_goals exact .stays c

namespace Interactive

theorem answered_takeThen {α : Type} (a : Interactive) (c : Client) (slot : Handoff α)
    (put : Interactive → Handoff α → Interactive) (operation : α → Operation) :
    c.Answered (a.takeThen c slot put operation).2.1 := by
  unfold takeThen
  split
  · exact .calls c _
  · exact .stays c
  · exact .stays c

theorem answered_handle (a : Interactive) (c : Client) (state : AuthState) :
    c.Answered (a.handle c state).2.1 := by
  unfold handle
  cases state <;> dsimp only
  case waitEncryptionKey => exact .calls c _
  case waitParameters | waitPhoneNumber | waitPassword => exact answered_takeThen ..
  -- a code for a new account is sent with the names, taken next
  case waitCode isRegistered =>
    split
    · split
      · exact .calls c _
      · exact answered_takeThen ..
    · exact .stays c
    · exact .stays c
  all_goals exact .stays c

end Interactive

theorem Authorizer.answered_handle (h : Authorizer) (c : Client) (state : AuthState) :
    c.Answered (h.handle c state).2.1 := by
  cases h with
  | bot b => exact b.answered_handle c state
  | interactive a => exact a.answered_handle c state

theorem Authorizer.steady_signInFor (limit : Nat) (h : Authorizer) (c : Client)
    (answered : Option AuthState) (fuel : Nat) :
    c.Steady (signInFor limit h c answered fuel).2.1 := by
  induction fuel generalizing h c answered with
  | zero => exact .refl c
  | succ fuel ih =>
      unfold signInFor
      have asked := c.steady_authState
      split
      · rename_i after problem chosen
        rw [chosen] at asked
        split <;> exact asked
      · rename_i after state chosen
        rw [chosen] at asked
        split
        · exact asked
        split
        · exact asked.trans ((Client.steady_sleep _ _).trans (ih ..))
        have handled := (h.answered_handle after state).steady
        split
        · rename_i h' c' problem result
          rw [result] at handled
          exact asked.trans handled
        · rename_i h' c' result
          rw [result] at handled
          exact asked.trans handled
        · rename_i h' c' result
          rw [result] at handled
          -- ready: the settle delay passes; terminal: done; otherwise the next round
          split
          · exact asked.trans (handled.trans (Client.steady_sleep _ _))
          split
          · exact asked.trans handled
          · exact asked.trans (handled.trans (ih ..))

theorem Authorizer.steady_authorize (h : Authorizer) (c : Client) :
    c.Steady (h.authorize c).2.1 := by
  unfold authorize
  have signedIn := steady_signInFor (c.now + Client.patience.nanos) h c none rounds
  split <;> (rename_i result; rw [result] at signedIn; exact signedIn)

namespace Client.Session

variable {s s' : Session}

/-- A step that leaves a session's life as it is: the holder has not stopped the client, or has,
as before, and the client's life is unchanged. -/
structure Steady (s s' : Session) : Prop where
  stopped : s'.stopped = s.stopped
  client : s.client.Steady s'.client

theorem Steady.refl (s : Session) : s.Steady s := ⟨rfl, .refl _⟩

theorem steady_sync (s : Session) : s.Steady s.sync := by
  unfold sync
  split
  · exact .refl s
  · dsimp only
    have pushed :=
      (steady_pushEvent s.client (markerEvent s.marker (2 * (s.markers + 1) - 1))).trans
        (steady_pushEvent _ (markerEvent s.marker (2 * (s.markers + 1))))
    exact ⟨rfl, pushed.trans ⟨rfl, rfl, rfl, rfl⟩⟩

theorem steady_withListener (index : Nat) {f : Nat → Bool → Session × Outcome}
    (each : ∀ id made, s.Steady (f id made).1) : s.Steady (s.withListener index f).1 := by
  unfold withListener
  split
  · exact each ..
  · exact .refl s

theorem steady_withAuthorizer (name : String) {f : Authorizer → Session × Outcome}
    (each : ∀ h, s.Steady (f h).1) : s.Steady (s.withAuthorizer name f).1 := by
  unfold withAuthorizer
  split
  · exact each _
  · exact .refl s

theorem steady_supplyWith (name : String)
    (give : Interactive → Interactive × Handoff.Supplied × String) :
    s.Steady (s.supplyWith name give).1 := by
  unfold supplyWith
  refine steady_withAuthorizer name fun h => ?_
  split
  · dsimp only
    split
    · exact ⟨rfl, steady_sleep _ _⟩
    · exact ⟨rfl, .refl _⟩
  · exact .refl s

/-- Every step but a stop leaves the session's life as it is. -/
theorem steady_step (s : Session) {op : Op} (graceful : op ≠ .stop)
    (immediate : op ≠ .forceStop) : s.Steady (s.step op).1 := by
  cases op with
  | send request => exact ⟨rfl, steady_send _ request⟩
  | sendInBackground key request => exact ⟨rfl, steady_sendInBackground _ request⟩
  | await key =>
      dsimp only [step]
      split
      · exact .refl s
      · split
        · exact ⟨rfl, .refl _⟩
        · exact ⟨rfl, steady_await _ _⟩
  | call operation => exact ⟨rfl, steady_call _ operation⟩
  | execute operation => exact ⟨rfl, steady_execute _ operation⟩
  | executeRequest request => exact ⟨rfl, steady_executeRequest _ request⟩
  | pushEvent event => exact ⟨rfl, steady_pushEvent _ event⟩
  | listen => exact ⟨rfl, steady_listen _⟩
  | drain index =>
      refine steady_withListener index fun id made => ?_
      split
      · exact .refl s
      · exact ⟨rfl, rfl, rfl, rfl, rfl⟩
  | closeListener index => exact steady_withListener index fun _ _ => ⟨rfl, rfl, rfl, rfl, rfl⟩
  | dropListener index => exact steady_withListener index fun _ _ => ⟨rfl, rfl, rfl, rfl, rfl⟩
  | stop => exact absurd rfl graceful
  | forceStop => exact absurd rfl immediate
  | authorize h => exact ⟨rfl, h.steady_authorize _⟩
  | authorizeKept name => exact steady_withAuthorizer name fun h => ⟨rfl, h.steady_authorize _⟩
  | handleState name state =>
      exact steady_withAuthorizer name fun h => ⟨rfl, (h.answered_handle _ state).steady⟩
  | closeAuthorizer name => exact steady_withAuthorizer name fun _ => ⟨rfl, .refl _⟩
  | describeAuthorizer name =>
      refine steady_withAuthorizer name fun h => ?_
      cases h <;> exact .refl s
  | stateHistory name =>
      refine steady_withAuthorizer name fun h => ?_
      cases h <;> exact ⟨rfl, .refl _⟩
  | supply name answer => exact steady_supplyWith name _
  | supplyParameters name parameters => exact steady_supplyWith name _
  | _ => exact ⟨rfl, .refl _⟩

end Client.Session

/-! ## A stopped client -/

namespace Client

variable {c c' : Client}

/-- A client that has stopped: a stop was asked for and carried out, its engine was destroyed
exactly once, no call is pending and every registered listener is closed. -/
structure Halted (c : Client) : Prop where
  stopRequested : c.stopRequested = true
  stopping : c.stopping = true
  destroyed : c.handle.engine.destroyed = true
  destroyedOnce : c.handle.engine.destroyCount = 1
  idle : c.table.pending = []
  closed : c.registry.AllClosed

/-- A change of a stopped client that leaves it stopped and sends its engine nothing. -/
structure Rests (c c' : Client) : Prop where
  halted : c'.Halted
  sent : c'.handle.engine.sent = c.handle.engine.sent

theorem Rests.refl (halted : c.Halted) : c.Rests c := ⟨halted, rfl⟩

/-- A steady change that can only forget pending calls and leaves the listeners alone keeps a
stopped client stopped. -/
theorem Halted.of_steady (halted : c.Halted) (steady : c.Steady c')
    (pending : c'.table.pending.Sublist c.table.pending) (registry : c'.registry = c.registry) :
    c'.Halted where
  stopRequested := steady.stopRequested.trans halted.stopRequested
  stopping := steady.stopping.trans halted.stopping
  destroyed := steady.destroyed.trans halted.destroyed
  destroyedOnce := steady.destroyCount.trans halted.destroyedOnce
  idle := List.eq_nil_of_sublist_nil (halted.idle ▸ pending)
  closed := registry ▸ halted.closed

/-- Listeners of a stopped client closed in place of its own keep it stopped. -/
theorem Halted.withRegistry (halted : c.Halted) {registry : Registry Event}
    (closed : registry.AllClosed) : { c with registry := registry }.Halted :=
  ⟨halted.stopRequested, halted.stopping, halted.destroyed, halted.destroyedOnce, halted.idle,
    closed⟩

theorem submit_of_stopping (stopping : c.stopping = true) (request : Request) :
    c.submit request = (c, .error .stopped) := by
  simp [submit, stopping]

theorem send_of_stopping (stopping : c.stopping = true) (request : Request) :
    c.send request = (c, .error .stopped) := by
  simp [send, submit_of_stopping stopping]

theorem sendInBackground_of_stopping (stopping : c.stopping = true) (request : Request) :
    c.sendInBackground request = (c, .error .stopped) := by
  simp [sendInBackground, submit_of_stopping stopping]

theorem call_of_stopping (stopping : c.stopping = true) (operation : Operation) :
    c.call operation = (c, .error .stopped) := by
  simp [call, send_of_stopping stopping]

theorem perform_of_stopping (stopping : c.stopping = true) (operation : Operation) :
    c.perform operation = (c, .failed (.client .stopped)) := by
  simp [perform, call_of_stopping stopping]

theorem authState_of_stopping (stopping : c.stopping = true) :
    c.authState = (c, .error .stopped) := by
  simp [authState, call_of_stopping stopping]

theorem Answered.eq_of_stopping (stopping : c.stopping = true) (answered : c.Answered c') :
    c' = c := by
  rcases answered with same | ⟨operation, rfl⟩
  · exact same
  · rw [perform_of_stopping stopping]

theorem executeRequest_of_destroyed (destroyed : c.handle.engine.destroyed = true)
    (request : Request) : c.executeRequest request = (c, .error .stopped) := by
  have gone : c.handle.isDestroyed = true := destroyed
  simp [executeRequest, Handle.execute, gone, ClientError.ofEngine]

theorem execute_of_destroyed (destroyed : c.handle.engine.destroyed = true)
    (operation : Operation) :
    c.execute operation =
      (c, .error
        (if operation.synchronous then .stopped else .notSynchronous operation.typeName)) := by
  by_cases synchronous : operation.synchronous = true
  · simp [execute, synchronous, executeRequest_of_destroyed destroyed]
  · simp [execute, synchronous]

theorem dispatch_of_stopping (stopping : c.stopping = true) : c.dispatch = c := by
  simp [dispatch_eq_foldl, stopping]

theorem expire_pending_sublist (t : CorrelationTable) (call : Call) :
    (t.expire call).1.pending.Sublist t.pending := by
  rw [CorrelationTable.expire_eq]
  split
  · exact List.erase_sublist
  · exact .refl _

/-- Letting time pass only withdraws calls whose waits give up. -/
theorem advance_pending_sublist (c : Client) (time : Nat) :
    (c.advance time).table.pending.Sublist c.table.pending := by
  unfold Client.advance
  show (List.foldl _ (c.table, []) c.background).1.pending.Sublist
    (c.table, ([] : List InFlight)).1.pending
  -- the waits are visited one by one, each withdrawing its call at most
  generalize (c.table, ([] : List InFlight)) = acc
  induction c.background generalizing acc with
  | nil => exact .refl _
  | cons flight rest ih =>
      refine (ih _).trans ?_
      dsimp only
      split
      · exact .refl _
      · have expired := expire_pending_sublist acc.1 flight.call
        split <;> (rename_i result; rw [result] at expired; exact expired)

theorem takeReply_pending (t : CorrelationTable) (call : Call) :
    (t.takeReply call).1.pending = t.pending := by
  rw [CorrelationTable.takeReply_eq]

theorem finish_pending_sublist (c : Client) (flight : InFlight) :
    (c.finish flight).1.table.pending.Sublist c.table.pending := by
  unfold finish
  dsimp only
  split
  · exact .refl _
  have kept := takeReply_pending c.table flight.call
  split
  · rename_i table reply taken
    rw [taken] at kept
    show table.pending.Sublist c.table.pending
    rw [kept]
  · rename_i table taken
    rw [taken] at kept
    have shrunk := expire_pending_sublist table flight.call
    rw [kept] at shrunk
    split
    · rename_i table' expired
      rw [expired] at shrunk
      exact (advance_pending_sublist _ _).trans shrunk
    · rename_i table' expired
      rw [expired] at shrunk
      exact shrunk

theorem Halted.pushEvent (halted : c.Halted) (event : Json) : c.Rests (c.pushEvent event) := by
  unfold Client.pushEvent
  rw [dispatch_of_stopping]
  · exact ⟨⟨halted.stopRequested, halted.stopping, halted.destroyed, halted.destroyedOnce,
      halted.idle, halted.closed⟩, rfl⟩
  · exact halted.stopping

theorem Halted.listen (halted : c.Halted) : c.Rests c.listen.1 := by
  unfold Client.listen
  simp only [halted.stopping, if_true]
  exact ⟨⟨halted.stopRequested, rfl, halted.destroyed, halted.destroyedOnce, halted.idle,
    halted.closed.register_close⟩, rfl⟩

/-- A listener made on a stopped client is closed at once. -/
theorem Halted.listen_inactive (halted : c.Halted) :
    (c.listen.1.registry.find? c.listen.2).any (·.isActive) = false := by
  have member : c.listen.2 ∈ c.listen.1.registry.members := by
    simp [Client.listen, halted.stopping, Registry.close, Registry.register, Registry.registerWith]
  cases found : c.listen.1.registry.find? c.listen.2 with
  | none => rfl
  | some l =>
      have closed := halted.listen.halted.closed _ member l found
      simp [Listener.isActive, closed]

theorem Halted.finish (halted : c.Halted) (flight : InFlight) : c.Rests (c.finish flight).1 := by
  have unchanged :
      (c.finish flight).1.handle = c.handle ∧ (c.finish flight).1.registry = c.registry := by
    unfold Client.finish
    dsimp only
    split
    · exact ⟨rfl, rfl⟩
    · split
      · exact ⟨rfl, rfl⟩
      · split <;> exact ⟨rfl, rfl⟩
  refine ⟨halted.of_steady (steady_finish c flight) (finish_pending_sublist c flight)
    unchanged.2, ?_⟩
  rw [unchanged.1]

theorem Halted.advance (halted : c.Halted) (time : Nat) : c.Rests (c.advance time) :=
  ⟨halted.of_steady (steady_advance c time) (advance_pending_sublist c time) rfl, rfl⟩

theorem Halted.sleep (halted : c.Halted) (d : Duration) : c.Rests (c.sleep d) :=
  halted.advance _

/-! ### Tearing down -/

/-- A client that runs: no stop was asked for, and its engine lives and was never destroyed. -/
structure Running (c : Client) : Prop where
  stopRequested : c.stopRequested = false
  stopping : c.stopping = false
  live : c.handle.engine.destroyed = false
  intact : c.handle.engine.destroyCount = 0

theorem Running.of_steady (running : c.Running) (steady : c.Steady c') : c'.Running :=
  ⟨steady.stopRequested.trans running.stopRequested, steady.stopping.trans running.stopping,
    steady.destroyed.trans running.live, steady.destroyCount.trans running.intact⟩

/-- The two parts of a client's life. -/
def Wf (c : Client) : Prop := c.Running ∨ c.Halted

/-- The engine was destroyed once if at all. -/
theorem Wf.destroyCount_eq (wf : c.Wf) :
    c.handle.engine.destroyCount = if c.handle.engine.destroyed then 1 else 0 := by
  rcases wf with running | halted
  · simp [running.live, running.intact]
  · simp [halted.destroyed, halted.destroyedOnce]

theorem teardown_sent (c : Client) : c.teardown.handle.engine.sent = c.handle.engine.sent := by
  simp only [teardown, Handle.destroy]
  split <;> rfl

/-- Tearing down closes every registered listener and keeps its queue. -/
theorem teardown_find? (c : Client) {id : Nat} (member : id ∈ c.registry.members) :
    c.teardown.registry.find? id = (c.registry.find? id).map Listener.close := by
  simp [teardown, Registry.find?_closeAll, member]

/-- Tearing down a client whose stop was asked for, and whose engine was destroyed once if at
all, leaves it stopped. -/
theorem halted_teardown (requested : c.stopRequested = true)
    (counted : c.handle.engine.destroyCount = if c.handle.engine.destroyed then 1 else 0) :
    c.teardown.Halted := by
  have destroyedOnce : c.teardown.handle.engine.destroyCount = 1 ∧
      c.teardown.handle.engine.destroyed = true := by
    by_cases destroyed : c.handle.engine.destroyed = true
    · have gone : c.handle.isDestroyed = true := destroyed
      simp [teardown, Handle.destroy, gone, destroyed, counted]
    · have live : c.handle.isDestroyed = false := by simpa [Handle.isDestroyed] using destroyed
      simp only [Bool.not_eq_true] at destroyed
      simp [teardown, Handle.destroy, live, Engine.destroy, destroyed, counted]
  exact ⟨requested, rfl, destroyedOnce.2, destroyedOnce.1, rfl, Registry.allClosed_closeAll _⟩

theorem Wf.forceStop (wf : c.Wf) : c.Rests c.forceStop :=
  ⟨halted_teardown rfl wf.destroyCount_eq, teardown_sent _⟩

theorem stop_of_requested (requested : c.stopRequested = true) : c.stop = c := by
  simp [Client.stop, requested]

theorem Halted.isStopped (halted : c.Halted) : c.isStopped = true := by
  simp [Client.isStopped, Handle.isDestroyed, halted.stopping, halted.destroyed]

/-- However the client stands, its engine has been destroyed once at most, and letting go of the
handle destroys it once at most too. -/
theorem Wf.countAfterDrop_le (wf : c.Wf) :
    c.handle.engine.destroyCount ≤ 1 ∧ c.handle.countAfterDrop ≤ 1 := by
  rcases wf with running | halted
  · have live : c.handle.isDestroyed = false := running.live
    constructor
    · simp [running.intact]
    · by_cases busy : c.handle.isBusy = true
      · simp [Handle.countAfterDrop, live, busy, running.intact]
      · simp [Handle.countAfterDrop, live, busy, Handle.destroy, Engine.destroy, running.intact]
  · have gone : c.handle.isDestroyed = true := halted.destroyed
    simp [Handle.countAfterDrop, gone, halted.destroyedOnce]

/-- A start whose sign-in fails shuts the client down: it is stopped, and the shutdown sent the
engine nothing. -/
theorem Running.startWith_failed (running : c.Running) (h : Authorizer) {problem : ClientError}
    (failed : (c.startWith h).2.2 = some (.error problem)) :
    (c.startWith h).2.1.Halted ∧
      (c.startWith h).2.1.handle.engine.sent = (h.authorize c).2.1.handle.engine.sent := by
  have signedIn : (h.authorize c).2.1.Running := running.of_steady (h.steady_authorize c)
  unfold startWith at failed ⊢
  generalize h.authorize c = result at signedIn failed ⊢
  obtain ⟨h', c', run⟩ := result
  -- a shutdown is a teardown after asking for the stop
  have counted : c'.handle.engine.destroyCount = if c'.handle.engine.destroyed then 1 else 0 :=
    Client.Wf.destroyCount_eq (Or.inl signedIn)
  have shutDown : c'.shutdown.Halted ∧ c'.shutdown.handle.engine.sent = c'.handle.engine.sent :=
    ⟨halted_teardown rfl counted, teardown_sent _⟩
  cases run with
  | done state =>
      by_cases ready : state.isReady = true
      · simp [ready] at failed
      · simpa [ready] using shutDown
  | failed problem' => exact shutDown
  | stuck => simp at failed

/-! ### What reaches the engine -/

/-- A request as the client's next send puts it on the wire: under the next token. -/
def nextRequest (c : Client) (request : Request) : Request :=
  request.withExtra (c.tokens (c.drawn + 1))

theorem sent_dispatchFor (c : Client) (fuel : Nat) :
    (c.dispatchFor fuel).handle.engine.sent = c.handle.engine.sent := by
  induction fuel generalizing c with
  | zero => rfl
  | succ fuel ih =>
      unfold dispatchFor
      split
      · rfl
      · split
        · rename_i handle text received
          rw [ih, dispatchMessage_handle]
          exact (Handle.life_of_receive received).2.2
        · rfl

theorem sent_dispatch (c : Client) : c.dispatch.handle.engine.sent = c.handle.engine.sent :=
  sent_dispatchFor c _

theorem finish_handle (c : Client) (flight : InFlight) : (c.finish flight).1.handle = c.handle := by
  unfold Client.finish
  dsimp only
  split
  · rfl
  · split
    · rfl
    · split <;> rfl

/-- A send hands the engine one request at most: the request with the next token attached. -/
theorem sent_submit (c : Client) (request : Request) :
    (c.submit request).1.handle.engine.sent = c.handle.engine.sent ∨
      (c.submit request).1.handle.engine.sent =
        c.handle.engine.sent ++ Engine.logs (c.nextRequest request).toText := by
  unfold submit
  split
  · exact .inl rfl
  · dsimp only
    split
    · exact .inl rfl
    · split
      · exact .inl rfl
      · rename_i handle sent
        rw [sent_dispatch]
        exact .inr (Handle.life_of_send sent).2.2

theorem sent_send (c : Client) (request : Request) :
    (c.send request).1.handle.engine.sent = c.handle.engine.sent ∨
      (c.send request).1.handle.engine.sent =
        c.handle.engine.sent ++ Engine.logs (c.nextRequest request).toText := by
  have submitted := sent_submit c request
  unfold Client.send
  split
  · rename_i after flight chosen
    rw [chosen] at submitted
    rwa [finish_handle]
  · rename_i after problem chosen
    rwa [chosen] at submitted

theorem sent_call (c : Client) (operation : Operation) :
    (c.call operation).1.handle.engine.sent = c.handle.engine.sent ∨
      (c.call operation).1.handle.engine.sent = c.handle.engine.sent ++
        Engine.logs (c.nextRequest operation.toRequest).toText := by
  have sent := sent_send c operation.toRequest
  unfold Client.call
  split
  · rename_i after reply chosen
    rw [chosen] at sent
    split <;> exact sent
  · rename_i after problem chosen
    rwa [chosen] at sent

/-- A graceful stop of a running client sends the close request under the next token, and
nothing else, then tears down. -/
theorem Running.stop (running : c.Running) :
    ∃ closing : Client, c.stop = closing.teardown ∧ c.stop.Halted ∧
      (c.stop.handle.engine.sent = c.handle.engine.sent ∨
        c.stop.handle.engine.sent = c.handle.engine.sent ++
          Engine.logs (c.nextRequest Operation.close.toRequest).toText) := by
  let asked : Client := { c with stopRequested := true }
  have stopEq : c.stop = (asked.call .close).1.teardown := by
    simp [Client.stop, running.stopRequested, asked]
  have steady : asked.Steady (asked.call .close).1 := steady_call asked .close
  have counted : (asked.call .close).1.handle.engine.destroyCount =
      if (asked.call .close).1.handle.engine.destroyed then 1 else 0 := by
    rw [steady.destroyCount, steady.destroyed]
    simp [asked, running.live, running.intact]
  refine ⟨(asked.call .close).1, stopEq, ?_, ?_⟩
  · rw [stopEq]
    exact halted_teardown (steady.stopRequested.trans rfl) counted
  · rw [stopEq, teardown_sent]
    exact sent_call asked .close

end Client

theorem Authorizer.signInFor_of_stopping {c : Client} (stopping : c.stopping = true) (limit : Nat)
    (h : Authorizer) (answered : Option AuthState) (fuel : Nat) :
    (signInFor limit h c answered fuel).2.1 = c := by
  cases fuel with
  | zero => rfl
  | succ fuel =>
      simp only [signInFor, Client.authState_of_stopping stopping]
      split <;> rfl

theorem Authorizer.authorize_of_stopping {c : Client} (stopping : c.stopping = true)
    (h : Authorizer) : (h.authorize c).2.1 = c := by
  unfold authorize
  have signedIn := signInFor_of_stopping stopping (c.now + Client.patience.nanos) h none rounds
  split <;> (rename_i result; rw [result] at signedIn; exact signedIn)

/-! ## A stopped session -/

namespace Client.Session

variable {s s' : Session}

/-- A stopped session: its holder stopped the client, and the client is stopped. -/
structure Halted (s : Session) : Prop where
  stopped : s.stopped = true
  client : s.client.Halted

/-- A step of a stopped session that leaves it stopped and sends the engine nothing. -/
structure Rests (s s' : Session) : Prop where
  halted : s'.Halted
  sent : s'.client.handle.engine.sent = s.client.handle.engine.sent

theorem Rests.of_client (stopped : s'.stopped = true) (rests : s.client.Rests s'.client) :
    s.Rests s' :=
  ⟨⟨stopped, rests.halted⟩, rests.sent⟩

theorem Rests.trans {s'' : Session} (first : s.Rests s') (second : s'.Rests s'') : s.Rests s'' :=
  ⟨second.halted, second.sent.trans first.sent⟩

theorem Halted.sync (halted : s.Halted) : s.sync = s := by
  unfold Client.Session.sync
  rw [if_pos halted.stopped]

theorem rests_withListener (index : Nat) {f : Nat → Bool → Session × Outcome}
    (halted : s.Halted) (each : ∀ id made, s.Rests (f id made).1) :
    s.Rests (s.withListener index f).1 := by
  unfold withListener
  split
  · exact each ..
  · exact ⟨halted, rfl⟩

theorem rests_withAuthorizer (name : String) {f : Authorizer → Session × Outcome}
    (halted : s.Halted) (each : ∀ h, s.Rests (f h).1) : s.Rests (s.withAuthorizer name f).1 := by
  unfold withAuthorizer
  split
  · exact each _
  · exact ⟨halted, rfl⟩

theorem rests_supplyWith (halted : s.Halted) (name : String)
    (give : Interactive → Interactive × Handoff.Supplied × String) :
    s.Rests (s.supplyWith name give).1 := by
  unfold supplyWith
  refine rests_withAuthorizer name halted fun h => ?_
  split
  · dsimp only
    split
    · exact .of_client halted.stopped (halted.client.sleep _)
    · exact .of_client halted.stopped (.refl halted.client)
  · exact ⟨halted, rfl⟩

/-- Every step leaves a stopped session stopped and sends the engine nothing. -/
theorem Halted.rests (halted : s.Halted) (op : Op) : s.Rests (s.step op).1 := by
  have stopping := halted.client.stopping
  have destroyed := halted.client.destroyed
  have still : s.client.Rests s.client := .refl halted.client
  cases op with
  | send request =>
      exact .of_client halted.stopped
        (by simpa [Client.Session.step, send_of_stopping stopping] using still)
  | sendInBackground key request =>
      exact .of_client halted.stopped
        (by simpa [Client.Session.step, sendInBackground_of_stopping stopping] using still)
  | await key =>
      dsimp only [Client.Session.step]
      split
      · exact ⟨halted, rfl⟩
      · split
        · exact .of_client halted.stopped still
        · exact .of_client halted.stopped (halted.client.finish _)
  | call operation =>
      exact .of_client halted.stopped
        (by simpa [Client.Session.step, call_of_stopping stopping] using still)
  | execute operation =>
      exact .of_client halted.stopped
        (by simpa [Client.Session.step, execute_of_destroyed destroyed] using still)
  | executeRequest request =>
      exact .of_client halted.stopped
        (by simpa [Client.Session.step, executeRequest_of_destroyed destroyed] using still)
  | pushEvent event => exact .of_client halted.stopped (halted.client.pushEvent event)
  | listen => exact .of_client halted.stopped halted.client.listen
  | drain index =>
      refine rests_withListener index halted fun id made => ?_
      split
      · exact ⟨halted, rfl⟩
      · exact .of_client halted.stopped
          ⟨halted.client.withRegistry (halted.client.closed.drain id), rfl⟩
  | closeListener index =>
      exact rests_withListener index halted fun id _ => .of_client halted.stopped
        ⟨halted.client.withRegistry (halted.client.closed.close id), rfl⟩
  | dropListener index =>
      exact rests_withListener index halted fun id _ => .of_client halted.stopped
        ⟨halted.client.withRegistry (halted.client.closed.close id), rfl⟩
  | stop =>
      refine .of_client rfl ?_
      simpa [Client.Session.step, stop_of_requested halted.client.stopRequested] using still
  | forceStop =>
      exact .of_client rfl (Client.Wf.forceStop (Or.inr halted.client))
  | authorize h =>
      exact .of_client halted.stopped
        (by simpa [Client.Session.step, Authorizer.authorize_of_stopping stopping] using still)
  | authorizeKept name =>
      refine rests_withAuthorizer name halted fun h => .of_client halted.stopped ?_
      simpa [Authorizer.authorize_of_stopping stopping] using still
  | handleState name state =>
      refine rests_withAuthorizer name halted fun h => .of_client halted.stopped ?_
      simpa [(h.answered_handle s.client state).eq_of_stopping stopping] using still
  | closeAuthorizer name =>
      exact rests_withAuthorizer name halted fun _ => .of_client halted.stopped still
  | describeAuthorizer name =>
      refine rests_withAuthorizer name halted fun h => ?_
      cases h <;> exact ⟨halted, rfl⟩
  | stateHistory name =>
      refine rests_withAuthorizer name halted fun h => ?_
      cases h <;> exact .of_client halted.stopped still
  | supply name answer => exact rests_supplyWith halted name _
  | supplyParameters name parameters => exact rests_supplyWith halted name _
  | _ => exact .of_client halted.stopped still

/-- What a stopped client answers: every send, call and in-place run learns that the client
stopped (an operation that cannot run in place is refused as such first), a request sent in the
background is kept as stopped, a new listener is closed at once, no call is pending and the
client reports itself stopped. -/
def StoppedAnswer : Op → Session × Outcome → Prop
  | .send _, (_, outcome) => outcome = .response (.error .stopped)
  | .sendInBackground key _, (s, outcome) =>
      outcome = .done ∧ (key, .error .stopped) ∈ s.requests
  | .call _, (_, outcome) => outcome = .reply (.error .stopped)
  | .execute operation, (_, outcome) =>
      outcome = .reply (.error
        (if operation.synchronous then .stopped else .notSynchronous operation.typeName))
  | .executeRequest _, (_, outcome) => outcome = .response (.error .stopped)
  | .listen, (_, outcome) => ∃ index, outcome = .listener index false
  | .pendingCalls, (_, outcome) => outcome = .count 0
  | .isStopped, (_, outcome) => outcome = .flag true
  | _, _ => True

theorem Halted.answers (halted : s.Halted) (op : Op) : StoppedAnswer op (s.step op) := by
  have stopping := halted.client.stopping
  have destroyed := halted.client.destroyed
  cases op with
  | send request => simp [StoppedAnswer, Client.Session.step, send_of_stopping stopping]
  | sendInBackground key request =>
      simp [StoppedAnswer, Client.Session.step, sendInBackground_of_stopping stopping]
  | call operation => simp [StoppedAnswer, Client.Session.step, call_of_stopping stopping]
  | execute operation =>
      simp [StoppedAnswer, Client.Session.step, execute_of_destroyed destroyed]
  | executeRequest request =>
      simp [StoppedAnswer, Client.Session.step, executeRequest_of_destroyed destroyed]
  | listen =>
      refine ⟨s.listeners.length, ?_⟩
      show Outcome.listener s.listeners.length
        ((s.client.listen.1.registry.find? s.client.listen.2).any (·.isActive)) = _
      rw [halted.client.listen_inactive]
  | pendingCalls =>
      simp [StoppedAnswer, Client.Session.step, pendingCalls, CorrelationTable.pendingCount,
        halted.client.idle]
  | isStopped =>
      simp [StoppedAnswer, Client.Session.step, isStopped, Handle.isDestroyed, stopping, destroyed]
  | _ => trivial

/-! ## Every run -/

/-- The two parts of a session's life: its holder has not stopped the client, which runs; or the
session is stopped. -/
def Wf (s : Session) : Prop := (s.stopped = false ∧ s.client.Running) ∨ s.Halted

theorem Wf.client (wf : s.Wf) : s.client.Wf := by
  rcases wf with ⟨-, running⟩ | halted
  · exact .inl running
  · exact .inr halted.client

/-- The session after the steps `ops`, each taken once the dispatcher has caught up. -/
def afterAll (s : Session) : List Op → Session
  | [] => s
  | op :: rest => (s.sync.step op).1.afterAll rest

/-- A stop, graceful or at once, of a session that runs leaves it stopped. -/
theorem halted_of_running (running : s.client.Running) {halt : Op}
    (halting : halt = .stop ∨ halt = .forceStop) : (s.step halt).1.Halted := by
  rcases halting with rfl | rfl
  · obtain ⟨-, -, halted, -⟩ := running.stop
    exact ⟨rfl, halted⟩
  · exact ⟨rfl, (Client.Wf.forceStop (.inl running)).halted⟩

theorem Wf.step (wf : s.Wf) (op : Op) : (s.sync.step op).1.Wf := by
  rcases wf with ⟨stopped, running⟩ | halted
  · have synced := steady_sync s
    have stillRunning : s.sync.client.Running := running.of_steady synced.client
    have stillStopped : s.sync.stopped = false := synced.stopped.trans stopped
    by_cases graceful : op = .stop
    · exact .inr (halted_of_running stillRunning (.inl graceful))
    by_cases immediate : op = .forceStop
    · exact .inr (halted_of_running stillRunning (.inr immediate))
    have stepped := steady_step s.sync graceful immediate
    exact .inl ⟨stepped.stopped.trans stillStopped, stillRunning.of_steady stepped.client⟩
  · rw [halted.sync]
    exact .inr (halted.rests op).halted

theorem Wf.afterAll (wf : s.Wf) (ops : List Op) : (s.afterAll ops).Wf := by
  induction ops generalizing s with
  | nil => exact wf
  | cons op rest ih => exact ih (wf.step op)

theorem Halted.afterAll (halted : s.Halted) (ops : List Op) : s.Rests (s.afterAll ops) := by
  induction ops generalizing s with
  | nil => exact ⟨halted, rfl⟩
  | cons op rest ih =>
      have first : s.Rests (s.sync.step op).1 := by
        rw [halted.sync]
        exact halted.rests op
      exact first.trans (ih first.halted)

/-- The step that stops a session, gracefully or at once. It leaves the session stopped; unless
the client had already stopped gracefully, it ends in a teardown; and it sends the engine nothing
unless it is the first graceful stop, which sends the close request under the next token. -/
theorem Wf.halt (wf : s.Wf) {halt : Op} (halting : halt = .stop ∨ halt = .forceStop) :
    (s.step halt).1.Halted ∧
      ((halt = .forceStop ∨ s.client.stopRequested = false) →
        ∃ c : Client, (s.step halt).1.client = c.teardown) ∧
      ((s.step halt).1.client.handle.engine.sent = s.client.handle.engine.sent ∨
        halt = .stop ∧ s.client.stopRequested = false ∧
          (s.step halt).1.client.handle.engine.sent = s.client.handle.engine.sent ++
            Engine.logs (s.client.nextRequest Operation.close.toRequest).toText) := by
  rcases wf with ⟨-, running⟩ | halted
  · rcases halting with rfl | rfl
    · obtain ⟨closing, torn, halted, sent⟩ := running.stop
      refine ⟨⟨rfl, halted⟩, fun _ => ⟨closing, torn⟩, ?_⟩
      rcases sent with same | closed
      · exact .inl same
      · exact .inr ⟨rfl, running.stopRequested, closed⟩
    · have stopped := Client.Wf.forceStop (Or.inl running)
      exact ⟨⟨rfl, stopped.halted⟩, fun _ => ⟨_, rfl⟩, .inl stopped.sent⟩
  · have requested := halted.client.stopRequested
    rcases halting with rfl | rfl
    · have unchanged : (s.step .stop).1.client = s.client := stop_of_requested requested
      refine ⟨⟨rfl, unchanged ▸ halted.client⟩, ?_, .inl (by rw [unchanged])⟩
      rintro (impossible | unrequested)
      · cases impossible
      · rw [requested] at unrequested
        cases unrequested
    · have stopped := Client.Wf.forceStop (Or.inr halted.client)
      exact ⟨⟨rfl, stopped.halted⟩, fun _ => ⟨_, rfl⟩, .inl stopped.sent⟩

end Client.Session

end Switchboard
