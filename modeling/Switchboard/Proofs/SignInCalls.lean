import Switchboard.Auth.Authorize
import Switchboard.Proofs.ReplyReading
import Switchboard.Proofs.Send

/-!
# Calls to the scripted sign-in

A client at rest (`Client.Idle`) runs over a live engine with nothing queued, no call waiting, no
reply kept and no caller in the background. Over the scripted sign-in, a call made at rest under a
non-empty token gets its answer at once: the engine logs the request in normal form
(`Operation.logged`) and queues the updates of the state it moved to and one reply under the
token; the dispatcher publishes the updates and hands the reply to the call, which takes it; and
the client is at rest again (`Client.Idle.call_authFlow`).

What a call leaves behind is the engine's flow and log, one more token drawn, and the table's
counters and the listeners (`Client.Served`). Asking for the sign-in state returns the flow's state
(`Client.Idle.authState`), and a step the flow takes is acknowledged
(`Client.Idle.perform_step`).
-/

namespace Switchboard

namespace Operation

/-- What the engine logs of an operation sent under `token`: the request's wire object in normal
form. -/
def logged (op : Operation) (token : String) : Json :=
  (op.toRequest.withExtra token).toJson.normalize

theorem parseBytes_withExtra (op : Operation) (token : String) :
    Json.parseBytes (op.toRequest.withExtra token).toText.toUTF8 = .ok (op.logged token) :=
  Request.parseBytes_toText op.toRequest_plain

theorem get?_logged (op : Operation) (token name : String) :
    (op.logged token).get? name =
      ((op.toRequest.withExtra token).toJson.get? name).map Json.normalize := by
  rw [logged, Request.toJson_entries, Json.get?_normalize]

/-- An operation sent under a non-empty token carries the token. -/
theorem extra_logged (op : Operation) {token : String} (named : token ≠ "") :
    (op.logged token).get? "@extra" = some (.string token) := by
  have apart : ("@extra" : String) ≠ "@type" := by decide
  rw [get?_logged, (op.toRequest_wf.withExtra token).get?_toJson]
  simp [apart, Request.withExtra, named, Json.normalize]

theorem tagOf_logged (op : Operation) (token : String) :
    Engine.tagOf (op.logged token) = some op.typeName := by
  rw [Engine.tagOf, get?_logged, (op.toRequest_wf.withExtra token).get?_toJson]
  simp [Request.withExtra, toRequest, Json.normalize, Json.asString?]

end Operation

namespace Engine

/-- Over the scripted sign-in, a send logs the operation and queues what the flow answers. -/
theorem send_authFlow {e : Engine} {flow : AuthFlow} (serving : e.responder = .authFlow flow)
    (op : Operation) (token : String) :
    e.send (op.toRequest.withExtra token).toText =
      { e with responder := .authFlow (flow.respond (op.logged token)).1,
               sent := e.sent ++ [op.logged token],
               inbox := e.inbox ++ (flow.respond (op.logged token)).2.map encode } := by
  have normal : (op.logged token).normalize = op.logged token := Json.normalize_normalize _
  simp only [send, op.parseBytes_withExtra token, normal, serving, Responder.respond, enqueue]

/-- Of the flow's answer, only the reply is a caller's: the updates before it carry no token. -/
theorem replies_answer (updates : List AuthState) {request body : Json} {tag token : String}
    (tagged : Tagged body tag) (extra : request.get? "@extra" = some (.string token))
    (named : token ≠ "") :
    ((updates.map stateUpdate ++ [replyTo request body]).map encode).filterMap Envelope.replyOf? =
      [{ typeName := tag, extra := token, data := (encode (replyTo request body)).toUTF8 }] := by
  have silent : ((updates.map stateUpdate).map encode).filterMap Envelope.replyOf? = [] := by
    simp [replyOf?_stateUpdate]
  rw [List.map_append, List.filterMap_append, silent]
  simp [replyOf?_replyTo tagged extra named]

end Engine

namespace AuthFlow

/-- A state query is answered with the state, which stays. -/
theorem respond_query {flow : AuthFlow} {request : Json}
    (query : Engine.tagOf request = some "getAuthorizationState") :
    flow.respond request = (flow, [Engine.replyTo request flow.state.toJson]) := by
  unfold respond
  rw [query]
  rfl

/-- A step of sign-in the flow takes moves the state, announces it and is acknowledged. -/
theorem respond_step {flow : AuthFlow} {request : Json} {tag : String} {next : AuthState}
    (tagged : Engine.tagOf request = some tag) (notQuery : tag ≠ "getAuthorizationState")
    (notClose : tag ≠ "close")
    (moves : flow.transition tag (Engine.stringField request) = some (.ok next)) :
    flow.respond request =
      ({ flow with state := next }, [Engine.stateUpdate next, Engine.replyTo request Engine.okBody]) := by
  unfold respond
  rw [tagged]
  simp only [if_neg notQuery, if_neg notClose, moves]

end AuthFlow

namespace Client

/-- A client at rest: running over a live engine, with nothing queued, no call waiting, no reply
kept and no caller waiting in the background. -/
structure Idle (c : Client) : Prop where
  running : c.stopping = false
  live : c.handle.engine.destroyed = false
  drained : c.handle.engine.inbox = []
  pending : c.table.pending = []
  delivered : c.table.delivered = []
  alone : c.background = []

/-- `c'` is the client at rest `c` after calls over the scripted sign-in that the engine logged as
`logged`: at rest again, one token drawn per call, its engine serving `flow` with the calls
logged, and its clock, tokens and settings as they were. -/
structure Served (c c' : Client) (flow : AuthFlow) (logged : List Json) : Prop where
  idle : c'.Idle
  engine : c'.handle.engine =
    { c.handle.engine with
      responder := .authFlow flow, inbox := [], sent := c.handle.engine.sent ++ logged }
  drawn : c'.drawn = c.drawn + logged.length
  now : c'.now = c.now
  tokens : c'.tokens = c.tokens
  settings : c'.settings = c.settings

theorem Served.trans {c c' c'' : Client} {flow flow' : AuthFlow} {logged logged' : List Json}
    (first : c.Served c' flow logged) (second : c'.Served c'' flow' logged') :
    c.Served c'' flow' (logged ++ logged') where
  idle := second.idle
  engine := by rw [second.engine, first.engine, List.append_assoc]
  drawn := by rw [second.drawn, first.drawn, List.length_append, Nat.add_assoc]
  now := second.now.trans first.now
  tokens := second.tokens.trans first.tokens
  settings := second.settings.trans first.settings

/-- A send from a client at rest to an engine that queues exactly one reply, under the send's
token: the call registered for the send is handed the reply and takes it, so the send returns
what the reply stands for and the table is left with no call and no reply kept. The engine is
left as the send left it, its queue dispatched. -/
theorem Idle.send {c : Client} (idle : c.Idle) (request : Request) {reply : Envelope}
    (answered : (c.handle.engine.send
      (request.withExtra (c.tokens (c.drawn + 1))).toText).inbox.filterMap Envelope.replyOf? = [reply])
    (own : reply.extra = c.tokens (c.drawn + 1)) :
    ∃ table registry, table.pending = [] ∧ table.delivered = [] ∧
      c.send request =
        ({ c with drawn := c.drawn + 1, table, registry,
                  handle := { c.handle with engine :=
                    { c.handle.engine.send (request.withExtra (c.tokens (c.drawn + 1))).toText with
                      inbox := [] } } },
          outcomeOf reply) := by
  have named : reply.extra ≠ "" :=
    Envelope.extra_of_mem_replies (by rw [answered]; exact List.mem_singleton_self reply)
  obtain ⟨running, live, drained, pending, delivered, alone⟩ := idle
  have alive : c.handle.isDestroyed = false := live
  have fresh : ∀ call ∈ c.table.pending, call.token ≠ c.tokens (c.drawn + 1) := by simp [pending]
  -- the send's call is registered alone, completed by the reply, and the reply taken
  have waiting : (c.table.register (c.tokens (c.drawn + 1)) request.typeName).1.pending =
      [⟨c.tokens (c.drawn + 1), request.typeName, c.table.nextRegistration⟩] := by
    rw [CorrelationTable.register_pending, if_neg (by simp [CorrelationTable.isPending, pending]),
      pending]
    rfl
  have wf : (c.table.register (c.tokens (c.drawn + 1)) request.typeName).1.Wf := by
    constructor <;> simp [waiting, delivered]
  obtain ⟨-, handed⟩ := CorrelationTable.complete_own wf
    (by rw [waiting]; exact List.mem_singleton_self _) own named
  have completed : ((c.table.register (c.tokens (c.drawn + 1)) request.typeName).1.complete
      reply).1.pending = [] := by
    rw [CorrelationTable.complete_pending, if_neg (by simpa using named), waiting]
    simp [own]
  unfold Client.send
  rw [submit_eq c request running alive fresh, dispatch_eq_foldl,
    if_neg (by simp [running, Handle.isDestroyed, live]), foldl_dispatchMessage]
  simp only [answered, List.foldl_cons, List.foldl_nil]
  unfold Client.finish
  simp only [alone, List.filter_nil, Bool.false_eq_true, CorrelationTable.takeReply, handed,
    CorrelationTable.register_delivered, delivered, List.nil_append, List.find?_singleton,
    beq_self_eq_true, List.filter_singleton, bne_self_eq_false, cond_false, ↓reduceIte]
  exact ⟨{ ((c.table.register (c.tokens (c.drawn + 1)) request.typeName).1.complete reply).1 with
    delivered := [] }, _, completed, rfl, rfl⟩

/-- A call from a client at rest over the scripted sign-in, under a non-empty token, that the flow
answers with state updates and one reply whose body decodes as `value`: the call returns `value`,
and the client is at rest again with the flow moved on and the request logged. -/
theorem Idle.call_authFlow {c : Client} (idle : c.Idle) {flow : AuthFlow}
    (serving : c.handle.engine.responder = .authFlow flow) (named : c.tokens (c.drawn + 1) ≠ "")
    {op : Operation} {flow' : AuthFlow} {updates : List AuthState} {body : Json} {tag : String}
    {value : ReplyValue}
    (answers : flow.respond (op.logged (c.tokens (c.drawn + 1))) =
      (flow', updates.map Engine.stateUpdate ++
        [Engine.replyTo (op.logged (c.tokens (c.drawn + 1))) body]))
    (tagged : Engine.Tagged body tag) (plain : tag ≠ "error")
    (decoded : ({ typeName := tag, extra := c.tokens (c.drawn + 1),
                  data := (Engine.encode (Engine.replyTo (op.logged (c.tokens (c.drawn + 1)))
                    body)).toUTF8 } : Envelope).decodeReply op.replyKind = .ok value) :
    ∃ c', c.call op = (c', .ok value) ∧ c.Served c' flow' [op.logged (c.tokens (c.drawn + 1))] := by
  have extra := op.extra_logged named
  have engine := Engine.send_authFlow serving op (c.tokens (c.drawn + 1))
  set reply : Envelope :=
    { typeName := tag, extra := c.tokens (c.drawn + 1),
      data := (Engine.encode (Engine.replyTo (op.logged (c.tokens (c.drawn + 1))) body)).toUTF8 }
  have queued : (c.handle.engine.send
      (op.toRequest.withExtra (c.tokens (c.drawn + 1))).toText).inbox.filterMap
      Envelope.replyOf? = [reply] := by
    rw [engine, answers, idle.drained, List.nil_append]
    exact Engine.replies_answer updates tagged extra named
  obtain ⟨table, registry, pending, delivered, sent⟩ := idle.send op.toRequest queued rfl
  have outcome : outcomeOf reply = .ok reply := by
    rw [outcomeOf_eq]
    simp [reply, Envelope.isError, plain]
  refine ⟨{ c with drawn := c.drawn + 1, table, registry,
                    handle := { c.handle with engine :=
                      { c.handle.engine.send (op.toRequest.withExtra (c.tokens (c.drawn + 1))).toText with
                        inbox := [] } } }, ?_,
    ⟨idle.running, (Engine.send_destroyed _ _).trans idle.live, rfl, pending, delivered, idle.alone⟩,
    ?_, rfl, rfl, rfl, rfl⟩
  · unfold Client.call
    rw [sent, outcome]
    simp only [decoded]
  · simp only [engine, answers]

/-- Asking a client at rest for the sign-in state returns the flow's state, a known one, which
stays. -/
theorem Idle.authState {c : Client} (idle : c.Idle) {flow : AuthFlow}
    (serving : c.handle.engine.responder = .authFlow flow) (named : c.tokens (c.drawn + 1) ≠ "")
    (known : flow.state ≠ .unknown) :
    ∃ c', c.authState = (c', .ok flow.state) ∧
      c.Served c' flow [Operation.getAuthorizationState.logged (c.tokens (c.drawn + 1))] := by
  have answers : flow.respond (Operation.getAuthorizationState.logged (c.tokens (c.drawn + 1))) =
      (flow, ([] : List AuthState).map Engine.stateUpdate ++
        [Engine.replyTo (Operation.getAuthorizationState.logged (c.tokens (c.drawn + 1)))
          flow.state.toJson]) :=
    AuthFlow.respond_query (Operation.tagOf_logged _ _)
  obtain ⟨c', called, served⟩ := idle.call_authFlow serving named answers
    (Engine.tagged_toJson_known known) (AuthState.typeName_ne_error known)
    (Engine.decodeReply_stateBody known (Operation.extra_logged _ named))
  refine ⟨c', ?_, served⟩
  unfold Client.authState
  rw [called]

/-- A step of sign-in sent from a client at rest, which the flow takes: the flow moves on and the
step is acknowledged. -/
theorem Idle.perform_step {c : Client} (idle : c.Idle) {flow : AuthFlow}
    (serving : c.handle.engine.responder = .authFlow flow) (named : c.tokens (c.drawn + 1) ≠ "")
    {op : Operation} (acknowledged : op.replyKind = .ok)
    (notQuery : op.typeName ≠ "getAuthorizationState") (notClose : op.typeName ≠ "close")
    {next : AuthState}
    (moves : flow.transition op.typeName
      (Engine.stringField (op.logged (c.tokens (c.drawn + 1)))) = some (.ok next)) :
    ∃ c', c.perform op = (c', .done ()) ∧
      c.Served c' { flow with state := next } [op.logged (c.tokens (c.drawn + 1))] := by
  have answers : flow.respond (op.logged (c.tokens (c.drawn + 1))) =
      ({ flow with state := next }, [next].map Engine.stateUpdate ++
        [Engine.replyTo (op.logged (c.tokens (c.drawn + 1))) Engine.okBody]) :=
    AuthFlow.respond_step (op.tagOf_logged _) notQuery notClose moves
  have decoded := Engine.decodeReply_okBody (op.extra_logged named)
  rw [← acknowledged] at decoded
  obtain ⟨c', called, served⟩ := idle.call_authFlow serving named answers Engine.tagged_okBody
    (by decide) decoded
  refine ⟨c', ?_, served⟩
  unfold Client.perform
  rw [called]

end Client

end Switchboard
