import Mathlib
import Switchboard.Proofs.SignInCalls
import Switchboard.Proofs.SignInRounds

/-!
# Signing in over the scripted sign-in

Sign-in over the scripted engine passes through the stages of the login (`Login.stages`). At each
stage before ready the client asks for the state, hands it to the authorizer, and the authorizer
sends one operation, which the flow takes to the next stage (`Login.Takes`). The authorizers
differ only in what they send at each stage and in what they become after it: an authorizer that
sends, stage after stage, what `ops` gives is `Authorizer.Sends ops`.

One round is `Authorizer.round_stage`, and the rounds through consecutive stages are
`Authorizer.rounds_through`, by induction over the stages with a client at rest whose flow is at
the stage about to be handed over as the invariant. From a new client
(`Client.spawn_authFlow`), an authorizer that answers every stage before ready and is then handed
ready signs in, the engine having been sent exactly each round's query and operation
(`Client.Fresh.startWith_answering`); one that answers the stages before some stage and fails at
it makes sign-in fail with its failure, the engine having been sent those rounds and that stage's
query (`Client.Fresh.startWith_failing`).

The answers a user gives (`Prompt.Typed`) fix what any authorizer for the user sends at each stage
(`Prompt.Typed.operationAt`), and each of those operations takes the user's sign-in one stage on
(`Prompt.Typed.operation_along`).
-/

namespace Switchboard

/-! ## The stages of sign-in -/

namespace Login

/-- Sign-in starts by waiting for the parameters and ends ready. -/
theorem stages_eq_cons (login : Login) (encrypted : Bool) :
    login.stages encrypted =
      .waitParameters :: ((login.script encrypted).tail.map (·.1) ++ [.ready]) :=
  rfl

theorem length_stages_le (login : Login) (encrypted : Bool) :
    (login.stages encrypted).length ≤ 6 := by
  rcases login with ⟨code, registered, _ | password⟩ | token | token <;> cases encrypted <;>
    simp [stages, script]

/-- A stage of sign-in followed by another is a known state, neither ready nor an end of the
engine, and the later one never asks for the parameters. -/
theorem going_of_infix {login : Login} {encrypted : Bool} {state next : AuthState}
    (along : [state, next] <:+: login.stages encrypted) :
    state ≠ .unknown ∧ state.isReady = false ∧ state.isTerminal = false ∧
      next ≠ .waitParameters := by
  rcases login with ⟨code, registered, _ | password⟩ | token | token <;> cases encrypted <;>
    simp [stages, script, List.infix_cons_iff, List.cons_prefix_cons] at along <;>
    rcases along with ⟨rfl, rfl⟩ | ⟨rfl, rfl⟩ | ⟨rfl, rfl⟩ | ⟨rfl, rfl⟩ | ⟨rfl, rfl⟩ <;>
    simp_all [AuthState.isReady, AuthState.isTerminal]

/-- Sign-in never passes through an unknown state. -/
theorem ne_unknown_of_mem {login : Login} {encrypted : Bool} {state : AuthState}
    (mem : state ∈ login.stages encrypted) : state ≠ .unknown := by
  rintro rfl
  rcases login with ⟨code, registered, _ | password⟩ | token | token <;> cases encrypted <;>
    simp [stages, script] at mem

/-- `op` takes the scripted sign-in of `login` from `state` to `next`, whatever token it goes
under: the engine acknowledges it, and it is neither the query for the state nor a close. -/
structure Takes (login : Login) (encrypted : Bool) (state : AuthState) (op : Operation)
    (next : AuthState) : Prop where
  acknowledged : op.replyKind = .ok
  notQuery : op.typeName ≠ "getAuthorizationState"
  notClose : op.typeName ≠ "close"
  moves : ∀ token, AuthFlow.transition ⟨login, encrypted, state⟩ op.typeName
    (Engine.stringField (op.logged token)) = some (.ok next)

end Login

/-! ## What the engine logs of the operations -/

namespace Operation

/-- A field of a logged operation is the operation's own field, normalized. -/
theorem get?_logged_field (op : Operation) (token : String) {name : String}
    (plain : Request.isTagKey name = false) :
    (op.logged token).get? name = (op.payload.get? name).map Json.normalize := by
  obtain ⟨entries, payload, -⟩ := op.payload_entries
  have notType : name ≠ "@type" := by rintro rfl; cases plain
  have notExtra : name ≠ "@extra" := by rintro rfl; cases plain
  rw [get?_logged, (op.toRequest_wf.withExtra token).get?_toJson, if_neg notType,
    if_neg notExtra]
  show (op.toRequest.data.lookup name).map Json.normalize = _
  rw [← Json.get?_eq_lookup op.toRequest_wf.sorted.nodup, toRequest_data, payload,
    Json.get?_normalize, Option.map_map]
  congr 1
  funext j
  exact Json.normalize_normalize j

theorem stringField_checkCode (code first last token : String) :
    Engine.stringField ((checkCode code first last).logged token) "code" = code := by
  rw [Engine.stringField, get?_logged_field _ _ rfl]
  simp [payload, Json.get?, Json.normalize, Json.asString?]

theorem stringField_checkPassword (password token : String) :
    Engine.stringField ((checkPassword password).logged token) "password" = password := by
  rw [Engine.stringField, get?_logged_field _ _ rfl]
  simp [payload, Json.get?, Json.normalize, Json.asString?]

theorem stringField_checkBotToken (botToken token : String) :
    Engine.stringField ((checkBotToken botToken).logged token) "token" = botToken := by
  rw [Engine.stringField, get?_logged_field _ _ rfl]
  simp [payload, Json.get?, Json.normalize, Json.asString?]

/-- What the engine logs of operations sent one after another, the first under the token after
the `drawn`-th. -/
def loggedFrom (tokens : Nat → String) (drawn : Nat) : List Operation → List Json
  | [] => []
  | op :: ops => op.logged (tokens (drawn + 1)) :: loggedFrom tokens (drawn + 1) ops

theorem loggedFrom_append (tokens : Nat → String) (drawn : Nat) (ops ops' : List Operation) :
    loggedFrom tokens drawn (ops ++ ops') =
      loggedFrom tokens drawn ops ++ loggedFrom tokens (drawn + ops.length) ops' := by
  induction ops generalizing drawn with
  | nil => rfl
  | cons op ops ih =>
    rw [List.cons_append, loggedFrom, loggedFrom, ih, List.length_cons, Nat.add_comm ops.length 1,
      Nat.add_assoc, List.cons_append]

@[simp] theorem length_loggedFrom (tokens : Nat → String) (drawn : Nat) (ops : List Operation) :
    (loggedFrom tokens drawn ops).length = ops.length := by
  induction ops generalizing drawn with
  | nil => rfl
  | cons op ops ih => simp [loggedFrom, ih]

end Operation

/-! ## What a user answers, and what it sends -/

namespace Prompt

/-- What a user answers to sign in: the phone number, the code, the names asked for when the
number is not registered, and the password when the account has one. -/
structure Typed where
  phone : String
  code : String
  first : String
  last : String
  password : Option String

namespace Typed

/-- The login under which these answers sign in, for a number registered or not. -/
def login (typed : Typed) (registered : Bool) : Login := .user typed.code registered typed.password

/-- The operation an authorizer sends at a state once it has the answers. -/
def operationAt (typed : Typed) (parameters : Parameters) : AuthState → Option Operation
  | .waitParameters => some (.setParameters parameters)
  | .waitEncryptionKey _ => some (.checkEncryptionKey "")
  | .waitPhoneNumber => some (.setPhoneNumber typed.phone false false)
  | .waitCode true => some (.checkCode typed.code "" "")
  | .waitCode false => some (.checkCode typed.code typed.first typed.last)
  | .waitPassword .. => typed.password.map .checkPassword
  | _ => none

/-- What the client sends in a round of sign-in at a state: the query for the state, then the
operation the state calls for, if any. -/
def roundAt (typed : Typed) (parameters : Parameters) (state : AuthState) : List Operation :=
  .getAuthorizationState :: (typed.operationAt parameters state).toList

/-- At a stage of a user's sign-in followed by another, the authorizer has an operation to send,
and it takes the sign-in to the next stage. -/
theorem operation_along {typed : Typed} {registered encrypted : Bool} (parameters : Parameters)
    {state next : AuthState}
    (along : [state, next] <:+: (typed.login registered).stages encrypted) :
    ∃ op, typed.operationAt parameters state = some op ∧
      (typed.login registered).Takes encrypted state op next := by
  -- one case per login shape and per pair of consecutive stages
  obtain ⟨phone, code, first, last, _ | password⟩ := typed <;> cases registered <;>
    cases encrypted <;>
    simp [login, Login.stages, Login.script, List.infix_cons_iff, List.cons_prefix_cons] at along <;>
    rcases along with ⟨rfl, rfl⟩ | ⟨rfl, rfl⟩ | ⟨rfl, rfl⟩ | ⟨rfl, rfl⟩ | ⟨rfl, rfl⟩ <;>
    refine ⟨_, rfl, rfl, ?_, ?_, fun token => ?_⟩ <;>
    simp_all [Operation.typeName, AuthFlow.transition, AuthFlow.afterKey, login,
      Operation.stringField_checkCode, Operation.stringField_checkPassword]

end Typed

end Prompt

/-! ## Authorizers that answer stage after stage -/

namespace Authorizer

/-- What the client sends in a round of sign-in at a state, the authorizer sending what `ops`
gives: the query for the state, then the authorizer's operation, if any. -/
def roundFor (ops : AuthState → Option Operation) (state : AuthState) : List Operation :=
  .getAuthorizationState :: (ops state).toList

theorem roundFor_of_some {ops : AuthState → Option Operation} {state : AuthState} {op : Operation}
    (asks : ops state = some op) : roundFor ops state = [.getAuthorizationState, op] := by
  simp [roundFor, asks]

/-- The rounds of a user's sign-in are those of an authorizer that sends what the answers call
for. -/
theorem roundAt_eq_roundFor (typed : Prompt.Typed) (parameters : Parameters) :
    typed.roundAt parameters = roundFor (typed.operationAt parameters) :=
  rfl

/-- `h` answers the states `states` in turn, ending as `h'`: at each it sends on any client the
operation `ops` gives for it, and becomes the authorizer that answers the next. -/
inductive Sends (ops : AuthState → Option Operation) : Authorizer → List AuthState → Authorizer →
    Prop where
  | nil (h : Authorizer) : Sends ops h [] h
  | cons {h h' h'' : Authorizer} {state : AuthState} {op : Operation} {rest : List AuthState}
      (asks : ops state = some op)
      (sends : ∀ c, h.handle c state = (h', (c.perform op).1, (c.perform op).2))
      (later : Sends ops h' rest h'') : Sends ops h (state :: rest) h''

theorem handle_interactive {a a' : Interactive} {c c' : Client} {state : AuthState}
    {run : Run Unit} (handled : a.handle c state = (a', c', run)) :
    (Authorizer.interactive a).handle c state = (.interactive a', c', run) := by
  simp only [handle, handled]

theorem handle_bot {b b' : Bot} {c c' : Client} {state : AuthState} {run : Run Unit}
    (handled : b.handle c state = (b', c', run)) :
    (Authorizer.bot b).handle c state = (.bot b', c', run) := by
  simp only [handle, handled]

/-- An interactive authorizer that sends `op` at `state` on any client, then answers the rest. -/
theorem Sends.cons_interactive {ops : AuthState → Option Operation} {a a' : Interactive}
    {state : AuthState} {op : Operation} {rest : List AuthState} {h : Authorizer}
    (asks : ops state = some op)
    (sends : ∀ c, a.handle c state = (a', (c.perform op).1, (c.perform op).2))
    (later : Sends ops (.interactive a') rest h) : Sends ops (.interactive a) (state :: rest) h :=
  .cons asks (fun c => handle_interactive (sends c)) later

/-- A round that hands over a new state, neither ready nor an end: sign-in goes on from there. -/
theorem signInFor_handled {limit : Nat} {h h' : Authorizer} {c c₁ c₂ : Client}
    {answered : Option AuthState} {state : AuthState} (fuel : Nat)
    (asked : c.authState = (c₁, .ok state)) (early : c₁.now ≤ limit)
    (fresh : answered ≠ some state) (handled : h.handle c₁ state = (h', c₂, .done ()))
    (going : state.isReady = false) (live : state.isTerminal = false) :
    signInFor limit h c answered (fuel + 1) = signInFor limit h' c₂ (some state) fuel := by
  simp [signInFor, asked, Nat.not_lt.2 early, fresh, handled, going, live]

/-- A round that hands over the ready state ends sign-in, ready, after the settle delay. -/
theorem signInFor_ready {limit : Nat} {h h' : Authorizer} {c c₁ c₂ : Client}
    {answered : Option AuthState} (fuel : Nat)
    (asked : c.authState = (c₁, .ok .ready)) (early : c₁.now ≤ limit)
    (fresh : answered ≠ some .ready) (handled : h.handle c₁ .ready = (h', c₂, .done ()))
    (settled : (c₂.sleep c₂.settings.settleDelay).now ≤ limit) :
    signInFor limit h c answered (fuel + 1) =
      (h', c₂.sleep c₂.settings.settleDelay, .done .ready) := by
  simp [signInFor, asked, Nat.not_lt.2 early, fresh, handled, AuthState.isReady,
    Nat.not_lt.2 settled]

/-- A round whose state the authorizer fails to handle ends sign-in with that failure. -/
theorem signInFor_failed {limit : Nat} {h h' : Authorizer} {c c₁ c₂ : Client}
    {answered : Option AuthState} {state : AuthState} {problem : AuthError} (fuel : Nat)
    (asked : c.authState = (c₁, .ok state)) (early : c₁.now ≤ limit)
    (fresh : answered ≠ some state) (handled : h.handle c₁ state = (h', c₂, .failed problem)) :
    signInFor limit h c answered (fuel + 1) = (h', c₂, .failed problem) := by
  simp [signInFor, asked, Nat.not_lt.2 early, fresh, handled]

section Rounds

variable {login : Login} {encrypted : Bool} {ops : AuthState → Option Operation} {limit : Nat}

/-- One round of sign-in at a stage with a next one: the client asks for the state, and the
authorizer sends an operation that moves the flow on. -/
theorem round_stage {state next : AuthState} {op : Operation} {h h' : Authorizer}
    (along : [state, next] <:+: login.stages encrypted) (takes : login.Takes encrypted state op next)
    (sends : ∀ c, h.handle c state = (h', (c.perform op).1, (c.perform op).2)) {c : Client}
    (idle : c.Idle) (serving : c.handle.engine.responder = .authFlow ⟨login, encrypted, state⟩)
    (named : ∀ n, c.tokens n ≠ "") (early : c.now ≤ limit) {answered : Option AuthState}
    (fresh : answered ≠ some state) (fuel : Nat) :
    ∃ c', signInFor limit h c answered (fuel + 1) = signInFor limit h' c' (some state) fuel ∧
      c.Served c' ⟨login, encrypted, next⟩
        (Operation.loggedFrom c.tokens c.drawn [.getAuthorizationState, op]) := by
  obtain ⟨known, going, live, -⟩ := Login.going_of_infix along
  obtain ⟨c₁, asked, first⟩ := idle.authState serving (named _) known
  obtain ⟨c₂, performed, second⟩ := first.idle.perform_step (by rw [first.engine])
    (by rw [first.tokens]; exact named _) takes.acknowledged takes.notQuery takes.notClose
    (takes.moves (c₁.tokens (c₁.drawn + 1)))
  have handled : h.handle c₁ state = (h', c₂, .done ()) := by rw [sends, performed]
  refine ⟨c₂, signInFor_handled fuel asked (first.now ▸ early) fresh handled going live, ?_⟩
  have served := first.trans second
  rw [first.tokens, first.drawn] at served
  exact served

/-- The rounds of sign-in through consecutive stages, from the flow's up to `last` excluded, with
an authorizer that answers them: the client sends each stage's round, and the run goes on at
`last` from the stage just before it. -/
theorem rounds_through
    (takes : ∀ state next, [state, next] <:+: login.stages encrypted →
      ∃ op, ops state = some op ∧ login.Takes encrypted state op next)
    (pre : List AuthState) {state last : AuthState} {h h' : Authorizer}
    (answers : Sends ops h (state :: pre) h')
    (along : state :: pre ++ [last] <:+: login.stages encrypted) {c : Client} (idle : c.Idle)
    (serving : c.handle.engine.responder = .authFlow ⟨login, encrypted, state⟩)
    (named : ∀ n, c.tokens n ≠ "") (early : c.now ≤ limit) {answered : Option AuthState}
    (fresh : answered ≠ some state) (fuel : Nat) :
    ∃ c' previous,
      signInFor limit h c answered ((state :: pre).length + fuel) =
        signInFor limit h' c' (some previous) fuel ∧
      [previous, last] <:+: login.stages encrypted ∧
      c.Served c' ⟨login, encrypted, last⟩
        (Operation.loggedFrom c.tokens c.drawn ((state :: pre).flatMap (roundFor ops))) := by
  -- the invariant carried from round to round: a client at rest whose flow is at the stage the
  -- authorizer is about to be handed
  induction pre generalizing state h c answered with
  | nil =>
    have pair : [state, last] <:+: login.stages encrypted := along
    cases answers with
    | cons asks sends later =>
      cases later
      obtain ⟨op, found, takes⟩ := takes state last pair
      obtain rfl := Option.some.inj (asks.symm.trans found)
      obtain ⟨c', ran, served⟩ := round_stage pair takes sends idle serving named early fresh fuel
      refine ⟨c', state, by rw [List.length_singleton, Nat.add_comm, ran], pair, ?_⟩
      rw [List.flatMap_singleton, roundFor_of_some asks]
      exact served
  | cons next pre ih =>
    have pair : [state, next] <:+: login.stages encrypted :=
      (List.infix_cons_iff.2 (.inl (by simp))).trans along
    cases answers with
    | cons asks sends later =>
      obtain ⟨op, found, takes'⟩ := takes state next pair
      obtain rfl := Option.some.inj (asks.symm.trans found)
      obtain ⟨c₁, ran, first⟩ := round_stage pair takes' sends idle serving named early fresh
        ((next :: pre).length + fuel)
      obtain ⟨c', previous, ran', before, second⟩ := ih later
        ((List.suffix_cons _ _).isInfix.trans along) first.idle (by rw [first.engine])
        (by rw [first.tokens]; exact named) (by rw [first.now]; exact early)
        (show some state ≠ some next by simpa using Login.ne_of_infix pair)
      refine ⟨c', previous, ?_, before, ?_⟩
      · rw [show (state :: next :: pre).length + fuel = (next :: pre).length + fuel + 1 by
          simp; omega, ran, ran']
      · have served := first.trans second
        rw [first.tokens, first.drawn, Operation.length_loggedFrom,
          ← Operation.loggedFrom_append] at served
        rw [List.flatMap_cons, roundFor_of_some asks]
        exact served

end Rounds

end Authorizer

/-! ## Signing in from a new client -/

namespace Client

theorem now_sleep (c : Client) (d : Duration) : (c.sleep d).now = c.now + d.nanos := by
  show max c.now (c.now + d.nanos) = _
  exact max_eq_right (Nat.le_add_right _ _)

/-- A client at rest that lets time pass is at rest, its engine untouched. -/
theorem Idle.sleep {c : Client} (idle : c.Idle) (d : Duration) :
    (c.sleep d).Idle ∧ (c.sleep d).handle = c.handle := by
  have alone := idle.alone
  unfold Client.sleep Client.advance
  rw [alone]
  exact ⟨⟨idle.running, idle.live, idle.drained, idle.pending, idle.delivered, rfl⟩, rfl⟩

theorem startWith_ready {c c' : Client} {h h' : Authorizer}
    (ran : Authorizer.signInFor (c.now + patience.nanos) h c none Authorizer.rounds =
      (h', c', .done .ready)) :
    c.startWith h = (h'.close, c', some (.ok ())) := by
  simp [startWith, Authorizer.authorize, ran, AuthState.isReady]

theorem startWith_failed {c c' : Client} {h h' : Authorizer} {problem : AuthError}
    (ran : Authorizer.signInFor (c.now + patience.nanos) h c none Authorizer.rounds =
      (h', c', .failed problem)) :
    c.startWith h = (h'.close, c'.shutdown, some (.error (.authorization problem))) := by
  simp [startWith, Authorizer.authorize, ran]

/-- A client just spawned over the scripted sign-in of `flow`: at rest, its engine serving the
flow with nothing logged, no token drawn, and its tokens and settings those it was given. -/
structure Fresh (c : Client) (flow : AuthFlow) (tokens : Nat → String) (settings : Settings) :
    Prop where
  idle : c.Idle
  serving : c.handle.engine.responder = .authFlow flow
  sent : c.handle.engine.sent = []
  drawn : c.drawn = 0
  tokens : c.tokens = tokens
  settings : c.settings = settings

/-- A client spawned with valid settings over the scripted sign-in is fresh: the flow's first
announcement is dispatched to no caller. -/
theorem spawn_authFlow {settings : Settings} (valid : settings.validate = .ok ())
    (flow : AuthFlow) (tokens : Nat → String) :
    ∃ c, spawn settings (Engine.withAuthFlow flow) tokens = .ok c ∧ c.Fresh flow tokens settings := by
  refine ⟨_, by rw [spawn, valid], ?_⟩
  rw [dispatch_eq_foldl, if_neg (by simp [Handle.new, Handle.isDestroyed, Engine.withAuthFlow,
    Engine.enqueue, Engine.new]), foldl_dispatchMessage]
  simp only [Handle.new, Engine.withAuthFlow, Engine.enqueue, Engine.new, List.nil_append,
    List.map_cons, List.map_nil, List.filterMap_cons, Engine.replyOf?_stateUpdate,
    List.filterMap_nil, List.foldl_nil]
  exact ⟨⟨rfl, rfl, rfl, rfl, rfl, rfl⟩, rfl, rfl, rfl, rfl, rfl⟩

/-- A fresh client signs in with an authorizer that answers every stage before ready, each
operation taking the flow one stage on, and then takes the ready state in its stride: sign-in is
ready, the client is at rest, and the engine has been sent each round's query and operation and
nothing else. -/
theorem Fresh.startWith_answering {c : Client} {login : Login} {encrypted : Bool}
    {tokens : Nat → String} {settings : Settings}
    (fresh : c.Fresh ⟨login, encrypted, .waitParameters⟩ tokens settings)
    (settles : settings.settleDelay.nanos ≤ patience.nanos) (named : ∀ n, tokens n ≠ "")
    {ops : AuthState → Option Operation}
    (takes : ∀ state next, [state, next] <:+: login.stages encrypted →
      ∃ op, ops state = some op ∧ login.Takes encrypted state op next)
    (quiet : ops .ready = none) {h h' h'' : Authorizer}
    (answers : Authorizer.Sends ops h
      (.waitParameters :: (login.script encrypted).tail.map (·.1)) h')
    (ready : ∀ c, h'.handle c .ready = (h'', c, .done ())) :
    ∃ c', c.startWith h = (h''.close, c', some (.ok ())) ∧ c'.Idle ∧
      c'.handle.engine.sent =
        Operation.loggedFrom tokens 0 ((login.stages encrypted).flatMap (Authorizer.roundFor ops)) := by
  have named' : ∀ n, c.tokens n ≠ "" := by rw [fresh.tokens]; exact named
  have early : c.now ≤ c.now + patience.nanos := Nat.le_add_right _ _
  -- every stage before ready takes one round, and the ready state one more
  obtain ⟨fuel, enough⟩ : ∃ fuel, Authorizer.rounds =
      (AuthState.waitParameters :: (login.script encrypted).tail.map (·.1)).length + (fuel + 1) := by
    have bound := Login.length_stages_le login encrypted
    rw [Login.stages_eq_cons] at bound
    exact ⟨Authorizer.rounds - ((login.script encrypted).tail.length + 2), by
      simp at bound; simp [Authorizer.rounds]; omega⟩
  obtain ⟨c₁, previous, ran, before, served⟩ := Authorizer.rounds_through takes _ answers
    (List.infix_refl _) fresh.idle fresh.serving named' early
    (show (none : Option AuthState) ≠ some .waitParameters by simp) (fuel + 1)
  obtain ⟨c₂, asked, last⟩ := served.idle.authState (by rw [served.engine])
    (by rw [served.tokens]; exact named' _) (by simp)
  have settled : (c₂.sleep c₂.settings.settleDelay).now ≤ c.now + patience.nanos := by
    rw [now_sleep, last.now, served.now, last.settings, served.settings, fresh.settings]
    omega
  have finished := Authorizer.signInFor_ready fuel asked
    (by rw [last.now, served.now]; exact early)
    (show some previous ≠ some .ready by simpa using Login.ne_of_infix before) (ready c₂) settled
  obtain ⟨rested, untouched⟩ := last.idle.sleep c₂.settings.settleDelay
  refine ⟨_, startWith_ready (by rw [enough, ran, finished]), rested, ?_⟩
  rw [untouched, last.engine, served.engine, fresh.sent, served.tokens, served.drawn, fresh.tokens,
    fresh.drawn, Login.stages_eq_cons, ← List.cons_append, List.flatMap_append,
    Operation.loggedFrom_append]
  simp [Authorizer.roundFor, Operation.loggedFrom, quiet]

/-- A fresh client whose authorizer answers the stages before `state`, each operation taking the
flow one stage on, and then fails at `state`: sign-in fails with that failure and the client is
shut down, the engine having been sent the earlier rounds and the query of that stage only. -/
theorem Fresh.startWith_failing {c : Client} {login : Login} {encrypted : Bool}
    {tokens : Nat → String} {settings : Settings}
    (fresh : c.Fresh ⟨login, encrypted, .waitParameters⟩ tokens settings)
    (named : ∀ n, tokens n ≠ "") {ops : AuthState → Option Operation}
    (takes : ∀ state next, [state, next] <:+: login.stages encrypted →
      ∃ op, ops state = some op ∧ login.Takes encrypted state op next)
    (pre : List AuthState) {state : AuthState}
    (along : .waitParameters :: pre ++ [state] <:+: login.stages encrypted)
    {h h' h'' : Authorizer} (answers : Authorizer.Sends ops h (.waitParameters :: pre) h')
    {problem : AuthError} (fails : ∀ c, h'.handle c state = (h'', c, .failed problem)) :
    ∃ c' : Client,
      c.startWith h = (h''.close, c'.shutdown, some (.error (.authorization problem))) ∧
      c'.handle.engine.sent = Operation.loggedFrom tokens 0
        ((.waitParameters :: pre).flatMap (Authorizer.roundFor ops) ++ [.getAuthorizationState]) := by
  have named' : ∀ n, c.tokens n ≠ "" := by rw [fresh.tokens]; exact named
  -- the stages before `state` take one round each, and `state` one more
  obtain ⟨fuel, enough⟩ : ∃ fuel, Authorizer.rounds =
      (AuthState.waitParameters :: pre).length + (fuel + 1) := by
    have shorter := along.length_le
    have bound := Login.length_stages_le login encrypted
    exact ⟨Authorizer.rounds - ((AuthState.waitParameters :: pre).length + 1), by
      simp at shorter; simp [Authorizer.rounds]; omega⟩
  obtain ⟨c₁, previous, ran, before, served⟩ := Authorizer.rounds_through takes pre answers along
    fresh.idle fresh.serving named' (Nat.le_add_right _ _)
    (show (none : Option AuthState) ≠ some .waitParameters by simp) (fuel + 1)
  obtain ⟨c₂, asked, last⟩ := served.idle.authState (by rw [served.engine])
    (by rw [served.tokens]; exact named' _)
    (Login.ne_unknown_of_mem (before.subset (by simp)))
  have failed := Authorizer.signInFor_failed fuel asked
    (show c₂.now ≤ c.now + patience.nanos by rw [last.now, served.now]; omega)
    (show some previous ≠ some state by simpa using Login.ne_of_infix before) (fails c₂)
  refine ⟨c₂, startWith_failed (by rw [enough, ran, failed]), ?_⟩
  rw [last.engine, served.engine, fresh.sent, served.tokens, served.drawn, fresh.tokens,
    fresh.drawn, Operation.loggedFrom_append]
  simp [Operation.loggedFrom]

end Client

end Switchboard
