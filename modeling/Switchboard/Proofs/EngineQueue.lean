import Switchboard.Proofs.Stopping

/-!
# The scripted engine is a queue

The scripted engine queues what it is given and hands it out again. Whatever calls reach it and
in whatever order (events pushed, requests sent or run in place, receives and destroys), it keeps
the laws of a queue (`Engine.scripted_engine_serves_its_queue`):

* its log holds every request a send read, in order, and every destroy is counted;
* without a destroy, the receives hand out what waited and then each pushed event and the replies
  to each request sent, in order and as their JSON text, one at a time and once each, and what they
  have not handed out still waits (`Watch.received_append_inbox`). Which messages those are is said
  by `handed`, which follows the responder along the calls and never looks at the queue;
* a receive answers the next message not yet received, and nothing when none waits or the engine
  is destroyed;
* a request run in place gets the responder's first reply, if there is one, and queues nothing;
* a destroy empties the queue and frees the buffer of the last answer, and from then on nothing is
  received.

The engine answers with text. The buffer that text lives in until the next receive or run in
place that answers replaces it, or a destroy frees it, is kept beside the engine by `Watch`.
-/

namespace Switchboard

namespace Engine

/-- A call on a scripted engine. -/
inductive Call where
  | pushEvent (event : Json)
  | send (text : String)
  | receive
  | execute (text : String)
  | destroy

/-- The request the engine reads from a text: its JSON value in normal form, if it is JSON. -/
def requestOf? (text : String) : Option Json :=
  match Json.parseBytes text.toUTF8 with
  | .ok value => some value.normalize
  | .error _ => none

namespace Call

/-- Whether the call destroys the engine. -/
def isDestroy : Call → Bool
  | .destroy => true
  | _ => false

/-- The request the call hands the responder: what a send or a run in place reads. -/
def request? : Call → Option Json
  | .send text | .execute text => requestOf? text
  | _ => none

/-- What the call adds to the log: the request a send reads. -/
def logged : Call → List Json
  | .send text => (requestOf? text).toList
  | _ => []

/-- What the call hands the queue while `r` answers requests: the event pushed, or the replies to
the request sent. -/
def queued (r : Responder) : Call → List Json
  | .pushEvent event => [event]
  | .send text => ((requestOf? text).map fun request => (r.respond request).2).getD []
  | _ => []

end Call

end Engine

namespace Responder

/-- The responder once it has answered the request a call hands it, if any. -/
def hear (r : Responder) (c : Engine.Call) : Responder :=
  (c.request?.map fun request => (r.respond request).1).getD r

/-- The responder once it has answered every request `calls` hand it. -/
def after (r : Responder) (calls : List Engine.Call) : Responder := calls.foldl hear r

end Responder

namespace Engine

/-- What `calls` hand the queue, `r` answering the first request: each pushed event and the replies
to each request sent, in order. -/
def handed : Responder → List Call → List Json
  | _, [] => []
  | r, c :: calls => c.queued r ++ handed (r.hear c) calls

/-- What a call answers: a receive the message it took, a run in place the reply it got, and the
other calls nothing. -/
def answer (e : Engine) : Call → Option String
  | .receive => e.receive.2
  | .execute text => (e.execute text).2
  | _ => none

/-- A scripted engine under calls, with the buffer its last answer lives in, what each call
answered, and the messages the receives took, in order. -/
structure Watch where
  engine : Engine
  /-- The text of the last answer; the next answer replaces it, and a destroy frees it. -/
  buffer : Option String := none
  answers : List (Option String) := []
  received : List String := []

namespace Watch

/-- Runs one call. -/
def perform (w : Watch) : Call → Watch
  | .pushEvent event =>
      { w with engine := w.engine.pushEvent event, answers := w.answers ++ [none] }
  | .send text => { w with engine := w.engine.send text, answers := w.answers ++ [none] }
  | .receive =>
      { engine := w.engine.receive.1, buffer := w.engine.receive.2.or w.buffer,
        answers := w.answers ++ [w.engine.receive.2],
        received := w.received ++ w.engine.receive.2.toList }
  | .execute text =>
      { w with engine := (w.engine.execute text).1, buffer := (w.engine.execute text).2.or w.buffer,
               answers := w.answers ++ [(w.engine.execute text).2] }
  | .destroy => { w with engine := w.engine.destroy, buffer := none, answers := w.answers ++ [none] }

/-- Runs calls in order. -/
def performAll (w : Watch) (calls : List Call) : Watch := calls.foldl perform w

end Watch

/-- An engine under `calls`, from the first. -/
def watch (e : Engine) (calls : List Call) : Watch := ({ engine := e } : Watch).performAll calls

/-! ## One call on the engine -/

variable {e : Engine}

theorem logs_eq (text : String) : logs text = (requestOf? text).toList := by
  unfold logs requestOf?
  cases Json.parseBytes text.toUTF8 <;> rfl

/-- A send reads its text; a request is logged, answered, and its replies queued. -/
theorem send_eq (text : String) :
    e.send text =
      match requestOf? text with
      | some request =>
          { e with responder := (e.responder.respond request).1, sent := e.sent ++ [request],
                   inbox := e.inbox ++ (e.responder.respond request).2.map encode }
      | none => e := by
  unfold send requestOf?
  cases Json.parseBytes text.toUTF8 <;> rfl

/-- A receive takes the oldest queued message, unless the engine is destroyed. -/
theorem receive_eq :
    e.receive = if e.destroyed then (e, none) else ({ e with inbox := e.inbox.tail }, e.inbox.head?) := by
  obtain ⟨responder, inbox, sent, destroyed, destroyCount⟩ := e
  cases destroyed <;> cases inbox <;> rfl

/-- A run in place reads its text; a request is answered, and its first reply is the answer. -/
theorem execute_eq (text : String) :
    e.execute text =
      match requestOf? text with
      | some request =>
          ({ e with responder := (e.responder.respond request).1 },
            (e.responder.respond request).2.head?.map encode)
      | none => (e, none) := by
  unfold execute requestOf?
  cases Json.parseBytes text.toUTF8 <;> rfl

namespace Watch

@[simp] theorem performAll_nil (w : Watch) : w.performAll [] = w := rfl

@[simp] theorem performAll_cons (w : Watch) (c : Call) (calls : List Call) :
    w.performAll (c :: calls) = (w.perform c).performAll calls := rfl

theorem performAll_append (w : Watch) (first second : List Call) :
    w.performAll (first ++ second) = (w.performAll first).performAll second :=
  List.foldl_append

/-! ## One call under watch -/

variable (w : Watch) (c : Call)

/-- Each call adds its answer. -/
theorem answers_perform : (w.perform c).answers = w.answers ++ [w.engine.answer c] := by
  cases c <;> rfl

/-- A send logs the request it read; no other call touches the log. -/
theorem sent_perform : (w.perform c).engine.sent = w.engine.sent ++ c.logged := by
  cases c with
  | send text => rw [Call.logged, ← logs_eq]; exact sent_send w.engine text
  | execute text =>
      simp only [perform, Call.logged, List.append_nil, execute_eq]
      cases requestOf? text <;> rfl
  | receive => simp [perform, Call.logged]
  | pushEvent | destroy => simp [perform, pushEvent, enqueue, destroy, Call.logged]

/-- A destroy is counted; no other call touches the count. -/
theorem destroyCount_perform :
    (w.perform c).engine.destroyCount = w.engine.destroyCount + if c.isDestroy then 1 else 0 := by
  cases c with
  | send text => simp [perform, Call.isDestroy]
  | execute text => simp [perform, Call.isDestroy]
  | receive => simp [perform, Call.isDestroy]
  | pushEvent | destroy => simp [perform, pushEvent, enqueue, destroy, Call.isDestroy]

/-- A destroy destroys the engine for good; no other call changes whether it is destroyed. -/
theorem destroyed_perform :
    (w.perform c).engine.destroyed = (w.engine.destroyed || c.isDestroy) := by
  cases c with
  | send text =>
      simp only [perform, Call.isDestroy, Bool.or_false, send_eq]
      cases requestOf? text <;> rfl
  | execute text => simp [perform, Call.isDestroy]
  | receive => simp [perform, Call.isDestroy]
  | pushEvent | destroy => simp [perform, pushEvent, enqueue, destroy, Call.isDestroy]

/-- The responder changes only by answering the request a call hands it. -/
theorem responder_perform : (w.perform c).engine.responder = w.engine.responder.hear c := by
  cases c with
  | send text =>
      simp only [perform, send_eq, Responder.hear, Call.request?]
      cases requestOf? text <;> rfl
  | execute text =>
      simp only [perform, execute_eq, Responder.hear, Call.request?]
      cases requestOf? text <;> rfl
  | receive =>
      simp only [perform, receive_eq]
      split <;> rfl
  | pushEvent | destroy => rfl

/-- A call that does not destroy the engine moves what it takes from the queue to the received
messages, and queues what it hands the queue: the received messages followed by the queue grow by
exactly that. -/
theorem received_append_inbox_perform (kept : c.isDestroy = false) :
    (w.perform c).received ++ (w.perform c).engine.inbox =
      w.received ++ w.engine.inbox ++ (c.queued w.engine.responder).map encode := by
  cases c with
  | pushEvent event => simp [perform, pushEvent, enqueue, Call.queued]
  | send text =>
      simp only [perform, send_eq, Call.queued]
      cases requestOf? text <;> simp
  | receive =>
      simp only [perform, receive_eq, Call.queued, List.map_nil, List.append_nil]
      cases w.engine.destroyed
      · cases w.engine.inbox <;> simp
      · simp
  | execute text =>
      simp only [perform, execute_eq, Call.queued, List.map_nil, List.append_nil]
      cases requestOf? text <;> rfl
  | destroy => cases kept

/-- Once the engine is destroyed, no call receives anything, and it stays destroyed. -/
theorem received_perform_of_destroyed (destroyed : w.engine.destroyed = true) :
    (w.perform c).received = w.received := by
  cases c <;> simp [perform, receive_eq, destroyed]

/-! ## A run of calls -/

variable {w}

theorem sent_performAll (calls : List Call) :
    (w.performAll calls).engine.sent = w.engine.sent ++ calls.flatMap Call.logged := by
  induction calls generalizing w with
  | nil => simp
  | cons c calls ih => simp [ih, sent_perform]

theorem destroyCount_performAll (calls : List Call) :
    (w.performAll calls).engine.destroyCount =
      w.engine.destroyCount + calls.countP Call.isDestroy := by
  induction calls generalizing w with
  | nil => simp
  | cons c calls ih =>
      rw [performAll_cons, ih, destroyCount_perform, List.countP_cons]
      omega

theorem destroyed_performAll (calls : List Call) :
    (w.performAll calls).engine.destroyed = (w.engine.destroyed || calls.any Call.isDestroy) := by
  induction calls generalizing w with
  | nil => simp
  | cons c calls ih => simp [ih, destroyed_perform, Bool.or_assoc]

theorem responder_performAll (calls : List Call) :
    (w.performAll calls).engine.responder = w.engine.responder.after calls := by
  induction calls generalizing w with
  | nil => rfl
  | cons c calls ih => rw [performAll_cons, ih, responder_perform]; rfl

/-- Without a destroy, the messages received followed by the queue are what they were, followed by
what the calls hand the queue. -/
theorem received_append_inbox (calls : List Call) (kept : ∀ c ∈ calls, c.isDestroy = false) :
    (w.performAll calls).received ++ (w.performAll calls).engine.inbox =
      w.received ++ w.engine.inbox ++ (handed w.engine.responder calls).map encode := by
  induction calls generalizing w with
  | nil => simp [handed]
  | cons c calls ih =>
      rw [performAll_cons, ih (fun d member => kept d (List.mem_cons_of_mem c member)),
        received_append_inbox_perform w c (kept c List.mem_cons_self), responder_perform]
      simp [handed]

/-- Once the engine is destroyed, nothing more is received. -/
theorem received_performAll_of_destroyed (destroyed : w.engine.destroyed = true)
    (calls : List Call) : (w.performAll calls).received = w.received := by
  induction calls generalizing w with
  | nil => rfl
  | cons c calls ih =>
      have still : (w.perform c).engine.destroyed = true := by simp [destroyed_perform, destroyed]
      rw [performAll_cons, ih still, received_perform_of_destroyed w c destroyed]

/-- Every call adds one answer after those already given. -/
theorem answers_performAll (calls : List Call) :
    ∃ later, (w.performAll calls).answers = w.answers ++ later ∧ later.length = calls.length := by
  induction calls generalizing w with
  | nil => exact ⟨[], by simp⟩
  | cons c calls ih =>
      obtain ⟨later, grown, counted⟩ := ih (w := w.perform c)
      refine ⟨w.engine.answer c :: later, ?_, by simp [counted]⟩
      rw [performAll_cons, grown, answers_perform]
      simp

end Watch

/-! ## What a run of calls does -/

/-- The answer of a call in a run is what it answers on the engine the calls before it left. -/
theorem answers_watch_at (e : Engine) (before : List Call) (c : Call) (after : List Call) :
    (e.watch (before ++ c :: after)).answers[before.length]? = some ((e.watch before).engine.answer c) := by
  obtain ⟨earlier, given, counted⟩ := Watch.answers_performAll (w := { engine := e }) before
  obtain ⟨later, grown, -⟩ := Watch.answers_performAll (w := (e.watch before).perform c) after
  have whole : (e.watch (before ++ c :: after)).answers =
      earlier ++ (e.watch before).engine.answer c :: later := by
    rw [watch, Watch.performAll_append, Watch.performAll_cons, ← watch, grown,
      Watch.answers_perform, watch, given]
    simp
  simp [whole, ← counted]

/-- A receive after `before` answers the next message queued and not yet received, and nothing
when there is none or the engine is destroyed. -/
theorem answer_receive_watch (e : Engine) (before : List Call) :
    (e.watch before).engine.answer .receive =
      if e.destroyed || before.any Call.isDestroy then none
      else (e.inbox ++ (handed e.responder before).map encode)[(e.watch before).received.length]? := by
  have destroyed : (e.watch before).engine.destroyed = (e.destroyed || before.any Call.isDestroy) :=
    Watch.destroyed_performAll before
  rw [answer, receive_eq, destroyed]
  split
  · rfl
  · rename_i live
    obtain ⟨-, kept⟩ : e.destroyed = false ∧ ∀ c ∈ before, c.isDestroy = false := by
      simpa using live
    -- the queue is what the calls queued, less what was received
    have whole := Watch.received_append_inbox (w := { engine := e }) before kept
    rw [← watch, List.nil_append] at whole
    rw [← whole, List.getElem?_append_right (Nat.le_refl _), Nat.sub_self, List.head?_eq_getElem?]

/-- A run in place after `before` answers the first reply of the responder as the calls before
left it. -/
theorem answer_execute_watch (e : Engine) (before : List Call) (text : String) :
    (e.watch before).engine.answer (.execute text) =
      (requestOf? text).bind fun request =>
        ((e.responder.after before).respond request).2.head?.map encode := by
  have responder : (e.watch before).engine.responder = e.responder.after before :=
    Watch.responder_performAll before
  rw [answer, execute_eq, responder]
  cases requestOf? text <;> rfl

/-- A destroy empties the queue and frees the buffer, and nothing is received after it. -/
theorem destroy_watch (e : Engine) (before after : List Call) :
    (e.watch (before ++ [.destroy])).engine.inbox = [] ∧
      (e.watch (before ++ [.destroy])).buffer = none ∧
      (e.watch (before ++ .destroy :: after)).received = (e.watch before).received := by
  have split (rest : List Call) :
      e.watch (before ++ .destroy :: rest) = ((e.watch before).perform .destroy).performAll rest := by
    rw [watch, Watch.performAll_append, Watch.performAll_cons, ← watch]
  refine ⟨by rw [split]; rfl, by rw [split]; rfl, ?_⟩
  rw [split, Watch.received_performAll_of_destroyed rfl]
  rfl

/-- The laws a scripted engine keeps along `calls`, from `e`. -/
structure Serves (e : Engine) (calls : List Call) : Prop where
  /-- The log holds every request a send read, in order. -/
  logs : (e.watch calls).engine.sent = e.sent ++ calls.flatMap Call.logged
  /-- Every destroy is counted. -/
  counts : (e.watch calls).engine.destroyCount = e.destroyCount + calls.countP Call.isDestroy
  /-- Without a destroy, the messages received followed by those still queued are those that
  waited, followed by each pushed event and the replies to each request sent, in order, as their
  text. -/
  inOrder : (∀ c ∈ calls, c.isDestroy = false) →
    (e.watch calls).received ++ (e.watch calls).engine.inbox =
      e.inbox ++ (handed e.responder calls).map encode
  /-- A receive answers the next message queued and not yet received, and nothing when there is
  none or the engine is destroyed. -/
  receives : ∀ before after, calls = before ++ .receive :: after →
    (e.watch calls).answers[before.length]? =
      some (if e.destroyed || before.any Call.isDestroy then none
        else (e.inbox ++ (handed e.responder before).map encode)[(e.watch before).received.length]?)
  /-- A request run in place gets the responder's first reply, if there is one, and (by `inOrder`)
  queues nothing. -/
  executes : ∀ before text after, calls = before ++ .execute text :: after →
    (e.watch calls).answers[before.length]? =
      some ((requestOf? text).bind fun request =>
        ((e.responder.after before).respond request).2.head?.map encode)
  /-- A destroy empties the queue and frees the buffer, and nothing is received after it. -/
  destroys : ∀ before after, calls = before ++ .destroy :: after →
    (e.watch (before ++ [.destroy])).engine.inbox = [] ∧
      (e.watch (before ++ [.destroy])).buffer = none ∧
      (e.watch calls).received = (e.watch before).received

/-- Whatever calls reach a scripted engine, it serves its queue: sends are logged and destroys
counted; receives hand out what was queued, in order and once each, and nothing once there is
nothing left or the engine is destroyed; a run in place answers the responder's first reply; and a
destroy empties the queue and frees the buffer. -/
theorem scripted_engine_serves_its_queue (e : Engine) (calls : List Call) : e.Serves calls where
  logs := Watch.sent_performAll calls
  counts := Watch.destroyCount_performAll calls
  inOrder kept := by simpa [watch] using Watch.received_append_inbox (w := { engine := e }) calls kept
  receives before after split := by rw [split, answers_watch_at, answer_receive_watch]
  executes before text after split := by rw [split, answers_watch_at, answer_execute_watch]
  destroys before after split := split ▸ destroy_watch e before after

/-- Two events pushed on a silent engine come out in order, and then nothing. -/
example :
    ((new .silent).watch [.pushEvent (.object [("@type", .string "a")]),
      .pushEvent (.object [("@type", .string "b")]), .receive, .receive, .receive]).answers =
      [none, none, some "\x7b\"@type\":\"a\"\x7d", some "\x7b\"@type\":\"b\"\x7d", none] := by
  decide +kernel

end Engine

end Switchboard
