import Switchboard.Engine.Basic

/-!
# The scripted sign-in keeps to its script

The scripted engine plays the engine's side of sign-in for one login. The login's *script* lists
the stages of sign-in in order, each with the request that ends it: the start-up parameters, the
database key when the database is encrypted, then a user's phone number, code and password (when
one is set), or a bot's token, asked for where a user's phone number would be or in a state of its
own. After the last stage sign-in is ready.

Whatever requests reach the engine, in whatever order, it keeps to that script:

* every request gets exactly one direct reply, which carries the request's correlation token; the
  update announcing a change of state comes before it, and a close announces the closing state
  before its reply and the closed state after;
* the state stays, moves one stage on along the script, or closes on a close; the request that
  ends the current stage with the right credential moves it on, and any other step of sign-in
  leaves it where it is with a 400 error, or a 401 for a wrong bot token;
* the last state update the engine ever queued announces its current state;
* the state becomes ready only through a request that checks a credential.

The engine is taken as it is after any requests, read or not, and the laws are stated for the
next request: what one answer does is proved once (`respond_answers`), and the run lemma
(`plays_run`) carries the script and the last update along every sequence of requests.
-/

namespace Switchboard

namespace Login

/-- The request that ends a stage of sign-in: its tag and, when it checks a credential, the field
that carries it and the value the field must have. -/
structure Step where
  tag : String
  credential : Option (String × String) := none
  deriving DecidableEq, Repr

/-- Whether a request with tag `tag` and string fields `field` is the step. -/
def Step.Fits (step : Step) (tag : String) (field : String → String) : Prop :=
  tag = step.tag ∧ ∀ checked ∈ step.credential, field checked.1 = checked.2

/-- The stages of sign-in before it is ready, in order, each with the request that ends it. -/
def script (login : Login) (encrypted : Bool) : List (AuthState × Step) :=
  [(.waitParameters, { tag := "setTdlibParameters" })] ++
    (if encrypted then [(.waitEncryptionKey false, { tag := "checkDatabaseEncryptionKey" })]
     else []) ++
    match login with
    | .user code registered password =>
        [(.waitPhoneNumber, { tag := "setAuthenticationPhoneNumber" }),
          (.waitCode registered,
            { tag := "checkAuthenticationCode", credential := some ("code", code) })] ++
        match password with
        | some password =>
            [(.waitPassword "" false "",
              { tag := "checkAuthenticationPassword", credential := some ("password", password) })]
        | none => []
    | .bot token =>
        [(.waitPhoneNumber,
          { tag := "checkAuthenticationBotToken", credential := some ("token", token) })]
    | .botTokenState token =>
        [(.waitBotToken,
          { tag := "checkAuthenticationBotToken", credential := some ("token", token) })]

/-- The states sign-in passes through, ending ready. -/
def stages (login : Login) (encrypted : Bool) : List AuthState :=
  (login.script encrypted).map (·.1) ++ [.ready]

/-- The tags of the requests that take a step of sign-in. -/
def signInTags : List String :=
  ["setTdlibParameters", "checkDatabaseEncryptionKey", "setAuthenticationPhoneNumber",
    "checkAuthenticationCode", "checkAuthenticationPassword", "checkAuthenticationBotToken"]

end Login

namespace Engine

/-- Whether a message announces a sign-in state. -/
def isStateUpdate (message : Json) : Bool :=
  tagOf message == some "updateAuthorizationState"

end Engine

namespace AuthFlow

/-- The request that ends the current stage, if the current state is a stage of the script. -/
def expected (flow : AuthFlow) : Option Login.Step :=
  ((flow.login.script flow.encryptedDatabase).find? (·.1 = flow.state)).map (·.2)

/-- The current state is a stage of the script, or closed. -/
def OnScript (flow : AuthFlow) : Prop :=
  flow.state ∈ flow.login.stages flow.encryptedDatabase ∨ flow.state = .closed

/-- The laws one answer of the scripted sign-in keeps: `flow` answers `request` with `messages`
and becomes `flow'`. -/
structure Answers (flow : AuthFlow) (request : Json) (flow' : AuthFlow) (messages : List Json) :
    Prop where
  /-- The login and the database setting stay as they were. -/
  same_login : flow'.login = flow.login ∧ flow'.encryptedDatabase = flow.encryptedDatabase
  /-- Exactly one direct reply, carrying the request's token: the acknowledgement, an error, or
  for a state query the current state. The update of a state change comes before it; a close
  announces the closing state before it and the closed state after. -/
  one_reply : ∃ body before after,
    messages = before.map Engine.stateUpdate ++ [Engine.replyTo request body] ++
      after.map Engine.stateUpdate ∧
    (Engine.replyTo request body).get? "@extra" = request.get? "@extra" ∧
    (body = Engine.okBody ∨ (∃ code message, body = Engine.errorBody code message) ∨
      (Engine.tagOf request = some "getAuthorizationState" ∧ body = flow.state.toJson)) ∧
    (if Engine.tagOf request = some "close" then before = [.closing] ∧ after = [.closed]
     else after = [] ∧ before = if flow'.state = flow.state then [] else [flow'.state])
  /-- The state stays, moves one stage on along the script, or closes on a close. -/
  along_script : flow'.state = flow.state ∨
    [flow.state, flow'.state] <:+: flow.login.stages flow.encryptedDatabase ∨
    (Engine.tagOf request = some "close" ∧ flow'.state = .closed)
  /-- A close closes, from any state. -/
  closes : Engine.tagOf request = some "close" → flow'.state = .closed
  /-- The request that ends the current stage, with the right credential, moves one stage on. -/
  fits : ∀ step tag, flow.expected = some step → Engine.tagOf request = some tag →
    step.Fits tag (Engine.stringField request) →
    [flow.state, flow'.state] <:+: flow.login.stages flow.encryptedDatabase ∧
      messages = [Engine.stateUpdate flow'.state, Engine.replyTo request Engine.okBody]
  /-- Any other step of sign-in changes nothing and gets a 400 error, or a 401 when it is the
  bot token the stage asks for, but the wrong one. -/
  misfits : ∀ tag, Engine.tagOf request = some tag → tag ∈ Login.signInTags →
    (¬ ∃ step, flow.expected = some step ∧ step.Fits tag (Engine.stringField request)) →
    flow' = flow ∧
      ((∃ message, messages = [Engine.replyTo request (Engine.errorBody 400 message)]) ∨
        (messages = [Engine.replyTo request (Engine.errorBody 401 "ACCESS_TOKEN_INVALID")] ∧
          tag = "checkAuthenticationBotToken" ∧ ∃ step, flow.expected = some step ∧ step.tag = tag))
  /-- A request that takes no step of sign-in and does not close leaves the flow as it was. -/
  others : (∀ tag, Engine.tagOf request = some tag → tag ∉ Login.signInTags ∧ tag ≠ "close") →
    flow' = flow
  /-- Ready is reached only through a request that checks a credential. -/
  ready_by_credential : flow'.state = .ready → flow.state ≠ .ready →
    ∃ step tag checked, flow.expected = some step ∧ Engine.tagOf request = some tag ∧
      step.Fits tag (Engine.stringField request) ∧ step.credential = some checked


end AuthFlow

/-! ## Replies -/

namespace Engine

/-- A body whose normal form starts with its tag, every other key sorting after `@type`. -/
def Tagged (body : Json) (tag : String) : Prop :=
  ∃ rest, body.normalize = .object (("@type", .string tag) :: rest) ∧
    ∀ entry ∈ rest, "@type" < entry.1

theorem replyTo_of_normalize {body : Json} {tag : String} {rest : List (String × Json)}
    (normal : body.normalize = .object (("@type", .string tag) :: rest)) (request : Json) :
    replyTo request body = match request.get? "@extra" with
      | some extra => .object (("@extra", extra) :: ("@type", .string tag) :: rest)
      | none => .object (("@type", .string tag) :: rest) := by
  unfold replyTo
  rw [normal]
  cases request.get? "@extra" with
  | none => rfl
  | some extra =>
      -- the token's key sorts first, so setting it puts it in front
      have first : ("@extra" : String) < "@type" := by decide
      simp [Json.set, Json.insertEntry, first]

/-- The key `key` sorts before every later key of a tagged body, so none of them is `key`. -/
theorem find?_later_eq_none {rest : List (String × Json)} {key : String}
    (later : ∀ entry ∈ rest, "@type" < entry.1) (before : key ≤ "@type") :
    (rest.reverse.find? fun entry => entry.1 == key) = none := by
  simp only [List.find?_eq_none, List.mem_reverse, beq_iff_eq]
  intro entry mem same
  have after := later entry mem
  rw [same] at after
  exact before after

/-- A reply keeps the tag of its body. -/
theorem tagOf_replyTo {body : Json} {tag : String} (tagged : Tagged body tag) (request : Json) :
    tagOf (replyTo request body) = some tag := by
  obtain ⟨rest, normal, later⟩ := tagged
  have other := find?_later_eq_none later (String.le_refl "@type")
  rw [replyTo_of_normalize normal]
  cases request.get? "@extra" <;>
    simp [tagOf, Json.get?, List.find?_append, other, Json.asString?]

/-- A reply carries the request's token, and none when the request has none. -/
theorem extra_replyTo {body : Json} {tag : String} (tagged : Tagged body tag) (request : Json) :
    (replyTo request body).get? "@extra" = request.get? "@extra" := by
  obtain ⟨rest, normal, later⟩ := tagged
  have other := find?_later_eq_none later (by decide : ("@extra" : String) ≤ "@type")
  rw [replyTo_of_normalize normal]
  cases request.get? "@extra" <;> simp [Json.get?, List.find?_append, other]

theorem tagged_okBody : Tagged okBody "ok" := ⟨[], rfl, by simp⟩

theorem tagged_errorBody (code : Int) (message : String) :
    Tagged (errorBody code message) "error" :=
  ⟨[("code", .number (Number.ofInt code)), ("message", .string message)], rfl,
    by simp only [List.forall_mem_cons]; decide⟩

theorem tagged_toJson (state : AuthState) :
    ∃ tag, Tagged state.toJson tag ∧ tag ≠ "updateAuthorizationState" := by
  -- the key comparisons are left to the kernel, which decides them under any order instance
  cases state
  case waitEncryptionKey isEncrypted =>
    exact ⟨_, ⟨[("is_encrypted", .bool isEncrypted)], rfl,
      by simp only [List.forall_mem_cons]; decide⟩, by decide⟩
  case waitCode isRegistered =>
    exact ⟨_, ⟨[("is_registered", .bool isRegistered)], rfl,
      by simp only [List.forall_mem_cons]; decide⟩, by decide⟩
  case waitPassword hint hasEmail pattern =>
    exact ⟨_, ⟨[("has_recovery_email_address", .bool hasEmail), ("password_hint", .string hint),
      ("recovery_email_address_pattern", .string pattern)], rfl,
      by simp only [List.forall_mem_cons]; decide⟩, by decide⟩
  all_goals exact ⟨_, ⟨_, rfl, by decide⟩, by decide⟩

theorem errorBody_inj {code : Int} {message message' : String} :
    errorBody code message = errorBody code message' ↔ message = message' := by
  simp [errorBody]

@[simp] theorem isStateUpdate_stateUpdate (state : AuthState) :
    isStateUpdate (stateUpdate state) = true := by
  simp [isStateUpdate, tagOf, stateUpdate, Json.get?, Json.asString?]

/-- A body the scripted sign-in replies with: the acknowledgement, an error, or a state. -/
def IsReplyBody (request body : Json) (state : AuthState) : Prop :=
  body = okBody ∨ (∃ code message, body = errorBody code message) ∨
    (tagOf request = some "getAuthorizationState" ∧ body = state.toJson)

/-- Every reply body is tagged, and not as a state update. -/
theorem tagged_of_isReplyBody {request body : Json} {state : AuthState}
    (kind : IsReplyBody request body state) :
    ∃ tag, Tagged body tag ∧ tag ≠ "updateAuthorizationState" := by
  rcases kind with rfl | ⟨code, message, rfl⟩ | ⟨-, rfl⟩
  · exact ⟨_, tagged_okBody, by decide⟩
  · exact ⟨_, tagged_errorBody code message, by decide⟩
  · exact tagged_toJson state

theorem isStateUpdate_replyTo {request body : Json} {state : AuthState}
    (kind : IsReplyBody request body state) : isStateUpdate (replyTo request body) = false := by
  obtain ⟨tag, tagged, other⟩ := tagged_of_isReplyBody kind
  simp [isStateUpdate, tagOf_replyTo tagged, other]

end Engine

/-! ## The script -/

namespace Login

theorem tags_of_script (login : Login) (encrypted : Bool) :
    ∀ entry ∈ login.script encrypted, entry.2.tag ∈ signInTags := by
  rcases login with ⟨code, registered, _ | password⟩ | token | token <;> cases encrypted <;>
    simp [script, signInTags]

theorem stages_nodup (login : Login) (encrypted : Bool) : (login.stages encrypted).Nodup := by
  rcases login with ⟨code, registered, _ | password⟩ | token | token <;> cases encrypted <;>
    simp [stages, script]

/-- One stage on along the script is another state. -/
theorem ne_of_infix {login : Login} {encrypted : Bool} {state next : AuthState}
    (along : [state, next] <:+: login.stages encrypted) : state ≠ next := by
  have pair := (stages_nodup login encrypted).sublist along.sublist
  simpa using pair

end Login

namespace AuthFlow

theorem expected_tag_mem {flow : AuthFlow} {step : Login.Step}
    (expects : flow.expected = some step) : step.tag ∈ Login.signInTags := by
  simp only [expected, Option.map_eq_some_iff] at expects
  obtain ⟨entry, found, rfl⟩ := expects
  exact Login.tags_of_script _ _ entry (List.mem_of_find?_eq_some found)

/-- The stage just before ready ends with a credential check. -/
theorem credential_of_ready {flow : AuthFlow} {step : Login.Step}
    (expects : flow.expected = some step)
    (last : [flow.state, .ready] <:+: flow.login.stages flow.encryptedDatabase) :
    ∃ checked, step.credential = some checked := by
  obtain ⟨login, encrypted, state⟩ := flow
  rcases login with ⟨code, registered, _ | password⟩ | token | token <;> cases encrypted <;>
    simp [Login.stages, Login.script, List.infix_cons_iff, List.cons_prefix_cons] at last <;>
    subst last <;> simp [expected, Login.script] at expects <;> simp [← expects]

/-! ## Sign-in steps -/

theorem transition_eq_none_iff (flow : AuthFlow) (tag : String) (field : String → String) :
    flow.transition tag field = none ↔ tag ∉ Login.signInTags := by
  -- down the transition's chain of tags, one at a time
  unfold transition
  by_cases t1 : tag = "setTdlibParameters"
  · simp [t1, Login.signInTags]
  by_cases t2 : tag = "checkDatabaseEncryptionKey"
  · simp [t2, Login.signInTags]
  by_cases t3 : tag = "setAuthenticationPhoneNumber"
  · simp [t3, Login.signInTags]
  by_cases t4 : tag = "checkAuthenticationCode"
  · simp [t4, Login.signInTags]
  by_cases t5 : tag = "checkAuthenticationPassword"
  · simp [t5, Login.signInTags]
  by_cases t6 : tag = "checkAuthenticationBotToken"
  · simp [t6, Login.signInTags]
  simp [t1, t2, t3, t4, t5, t6, Login.signInTags]

theorem mem_signInTags_of_transition {flow : AuthFlow} {tag : String} {field : String → String}
    {answer : Except Json AuthState} (answered : flow.transition tag field = some answer) :
    tag ∈ Login.signInTags := by
  have some : flow.transition tag field ≠ none := by simp [answered]
  simpa [transition_eq_none_iff] using some

/-- A step that moves the state is the one the current stage expects, and it moves one stage on. -/
theorem transition_ok {flow : AuthFlow} {tag : String} {field : String → String}
    {next : AuthState} (on : flow.OnScript) (moves : flow.transition tag field = some (.ok next)) :
    (∃ step, flow.expected = some step ∧ step.Fits tag field) ∧
      [flow.state, next] <:+: flow.login.stages flow.encryptedDatabase := by
  have signIn := mem_signInTags_of_transition moves
  obtain ⟨login, encrypted, state⟩ := flow
  simp only [Login.signInTags, List.mem_cons, List.mem_nil_iff, or_false] at signIn
  -- the step's tag selects one branch of the transition, the stage selects its answer
  rcases on with on | rfl
  · rcases login with ⟨code, registered, _ | password⟩ | token | token <;> cases encrypted <;>
      simp [Login.stages, Login.script] at on <;>
      rcases on with rfl | rfl | rfl | rfl | rfl | rfl <;>
      rcases signIn with rfl | rfl | rfl | rfl | rfl | rfl <;>
      simp only [transition, afterKey, Login.botToken?, ↓reduceIte, String.reduceEq,
        Option.some.injEq, reduceCtorEq, Bool.false_eq_true, ne_eq] at moves <;>
      (try split at moves) <;> cases moves <;>
      simp_all [expected, Login.script, Login.stages, Login.Step.Fits, List.infix_cons_iff,
        List.cons_prefix_cons]
  · rcases signIn with rfl | rfl | rfl | rfl | rfl | rfl <;> simp [transition] at moves

/-- The step the current stage expects, with the right credential, moves the state. -/
theorem transition_of_fits {flow : AuthFlow} {step : Login.Step} {tag : String}
    {field : String → String} (on : flow.OnScript) (expects : flow.expected = some step)
    (fits : step.Fits tag field) : ∃ next, flow.transition tag field = some (.ok next) := by
  obtain ⟨login, encrypted, state⟩ := flow
  obtain ⟨rfl, credential⟩ := fits
  rcases on with on | rfl
  · rcases login with ⟨code, registered, _ | password⟩ | token | token <;> cases encrypted <;>
      simp [Login.stages, Login.script] at on <;>
      rcases on with rfl | rfl | rfl | rfl | rfl | rfl <;>
      simp [expected, Login.script] at expects <;> subst expects <;>
      simp_all [transition, afterKey, Login.botToken?]
  · rcases login with ⟨code, registered, _ | password⟩ | token | token <;> cases encrypted <;>
      simp [expected, Login.script] at expects

/-- A refused step gets a 400 error, or a 401 for the wrong token where one is expected. -/
theorem transition_error {flow : AuthFlow} {tag : String} {field : String → String} {body : Json}
    (on : flow.OnScript) (refuses : flow.transition tag field = some (.error body)) :
    (∃ message, body = Engine.errorBody 400 message) ∨
      (body = Engine.errorBody 401 "ACCESS_TOKEN_INVALID" ∧ tag = "checkAuthenticationBotToken" ∧
        ∃ step, flow.expected = some step ∧ step.tag = tag) := by
  have signIn := mem_signInTags_of_transition refuses
  obtain ⟨login, encrypted, state⟩ := flow
  simp only [Login.signInTags, List.mem_cons, List.mem_nil_iff, or_false] at signIn
  rcases on with on | rfl
  · rcases login with ⟨code, registered, _ | password⟩ | token | token <;> cases encrypted <;>
      simp [Login.stages, Login.script] at on <;>
      rcases on with rfl | rfl | rfl | rfl | rfl | rfl <;>
      rcases signIn with rfl | rfl | rfl | rfl | rfl | rfl <;>
      simp only [transition, afterKey, Login.botToken?, ↓reduceIte, String.reduceEq,
        Option.some.injEq, reduceCtorEq, Bool.false_eq_true, ne_eq] at refuses <;>
      (try split at refuses) <;> cases refuses <;>
      simp only [Engine.errorBody_inj, exists_eq', true_or] <;>
      simp [expected, Login.script]
  · rcases signIn with rfl | rfl | rfl | rfl | rfl | rfl <;> simp [transition] at refuses <;>
      simp [← refuses, Engine.errorBody_inj]


/-! ## One answer -/

/-- What answering a request can do: refuse one without a tag, report the state, close, or take
a step of sign-in, which leaves an other request acknowledged, moves the state or is refused. -/
theorem respond_cases (flow : AuthFlow) (request : Json) :
    (Engine.tagOf request = none ∧ flow.respond request =
        (flow, [Engine.replyTo request (Engine.errorBody 400 "Request must have @type")])) ∨
    (Engine.tagOf request = some "getAuthorizationState" ∧
        flow.respond request = (flow, [Engine.replyTo request flow.state.toJson])) ∨
    (Engine.tagOf request = some "close" ∧
        flow.respond request = ({ flow with state := .closed },
          [Engine.stateUpdate .closing, Engine.replyTo request Engine.okBody,
            Engine.stateUpdate .closed])) ∨
    (∃ tag, Engine.tagOf request = some tag ∧ tag ≠ "getAuthorizationState" ∧ tag ≠ "close" ∧
      ((flow.transition tag (Engine.stringField request) = none ∧
          flow.respond request = (flow, [Engine.replyTo request Engine.okBody])) ∨
        (∃ next, flow.transition tag (Engine.stringField request) = some (.ok next) ∧
          flow.respond request = ({ flow with state := next },
            [Engine.stateUpdate next, Engine.replyTo request Engine.okBody])) ∨
        (∃ body, flow.transition tag (Engine.stringField request) = some (.error body) ∧
          flow.respond request = (flow, [Engine.replyTo request body])))) := by
  unfold respond
  rcases tagged : Engine.tagOf request with _ | tag
  · exact .inl ⟨rfl, rfl⟩
  · by_cases query : tag = "getAuthorizationState"
    · subst query
      exact .inr (.inl ⟨rfl, rfl⟩)
    by_cases closing : tag = "close"
    · subst closing
      exact .inr (.inr (.inl ⟨rfl, rfl⟩))
    refine .inr (.inr (.inr ⟨tag, rfl, query, closing, ?_⟩))
    simp only [query, closing, if_false]
    rcases flow.transition tag (Engine.stringField request) with _ | body | next
    · exact .inl ⟨rfl, rfl⟩
    · exact .inr (.inr ⟨body, rfl, rfl⟩)
    · exact .inr (.inl ⟨next, rfl, rfl⟩)

/-- An answer that leaves the flow as it was, with one reply: the laws hold as soon as no step
fits the request and a refused step of sign-in gets the errors the script allows. -/
theorem Answers.of_stays {flow : AuthFlow} {request body : Json}
    (kind : Engine.IsReplyBody request body flow.state)
    (notClose : Engine.tagOf request ≠ some "close")
    (unfit : ∀ step tag, flow.expected = some step → Engine.tagOf request = some tag →
      ¬ step.Fits tag (Engine.stringField request))
    (refused : ∀ tag, Engine.tagOf request = some tag → tag ∈ Login.signInTags →
      (∃ message, body = Engine.errorBody 400 message) ∨
        (body = Engine.errorBody 401 "ACCESS_TOKEN_INVALID" ∧
          tag = "checkAuthenticationBotToken" ∧ ∃ step, flow.expected = some step ∧ step.tag = tag)) :
    Answers flow request flow [Engine.replyTo request body] where
  same_login := ⟨rfl, rfl⟩
  one_reply := by
    obtain ⟨tag, tagged, -⟩ := Engine.tagged_of_isReplyBody kind
    exact ⟨body, [], [], rfl, Engine.extra_replyTo tagged request, kind, by simp [notClose]⟩
  along_script := .inl rfl
  closes := fun closing => absurd closing notClose
  fits := fun step tag expects tagged fits => absurd fits (unfit step tag expects tagged)
  misfits := by
    intro tag tagged signIn _
    refine ⟨rfl, ?_⟩
    rcases refused tag tagged signIn with ⟨message, rfl⟩ | ⟨rfl, bot, expected⟩
    · exact .inl ⟨message, rfl⟩
    · exact .inr ⟨rfl, bot, expected⟩
  others := fun _ => rfl
  ready_by_credential := fun ready notReady => absurd ready notReady

/-- A request whose tag is no step of sign-in fits no stage. -/
theorem unfit_of_not_mem {flow : AuthFlow} {request : Json} {tag : String}
    (tagged : Engine.tagOf request = some tag) (outside : tag ∉ Login.signInTags) :
    ∀ step tag', flow.expected = some step → Engine.tagOf request = some tag' →
      ¬ step.Fits tag' (Engine.stringField request) := by
  intro step tag' expects tagged' fits
  rw [tagged] at tagged'
  cases tagged'
  exact outside (fits.1 ▸ expected_tag_mem expects)

/-- Every answer of a flow on its script keeps the laws of one answer. -/
theorem respond_answers {flow : AuthFlow} (on : flow.OnScript) (request : Json) :
    Answers flow request (flow.respond request).1 (flow.respond request).2 := by
  rcases respond_cases flow request with
    ⟨untagged, answer⟩ | ⟨query, answer⟩ | ⟨closing, answer⟩ |
      ⟨tag, tagged, notQuery, notClose, ⟨quiet, answer⟩ | ⟨next, moves, answer⟩ |
        ⟨body, refuses, answer⟩⟩ <;> rw [answer]
  · -- no tag: refused, and nothing else applies
    exact Answers.of_stays (.inr (.inl ⟨_, _, rfl⟩)) (by simp [untagged])
      (by simp [untagged]) (by simp [untagged])
  · -- a state query
    have outside : "getAuthorizationState" ∉ Login.signInTags := by decide
    exact Answers.of_stays (.inr (.inr ⟨query, rfl⟩)) (by simp [query])
      (unfit_of_not_mem query outside) (fun tag tagged signIn => by
        rw [query] at tagged; cases tagged; exact absurd signIn outside)
  · -- a close, from any state
    have outside : "close" ∉ Login.signInTags := by decide
    refine
      { same_login := ⟨rfl, rfl⟩
        one_reply := ⟨Engine.okBody, [.closing], [.closed], rfl,
          Engine.extra_replyTo Engine.tagged_okBody request, .inl rfl, by simp [closing]⟩
        along_script := .inr (.inr ⟨closing, rfl⟩)
        closes := fun _ => rfl
        fits := fun step tag expects tagged fits => absurd fits (unfit_of_not_mem closing outside
          step tag expects tagged)
        misfits := fun tag tagged signIn => by
          rw [closing] at tagged; cases tagged; exact absurd signIn outside
        others := fun away => absurd rfl (away "close" closing).2
        ready_by_credential := fun ready => by cases ready }
  · -- an other request: acknowledged
    have outside := (transition_eq_none_iff flow tag _).1 quiet
    exact Answers.of_stays (.inl rfl) (by simp [tagged, notClose]) (unfit_of_not_mem tagged outside)
      (fun tag' tagged' signIn => by
        rw [tagged] at tagged'; cases tagged'; exact absurd signIn outside)
  · -- a step of sign-in that moves the state one stage on
    obtain ⟨⟨step, expects, fits⟩, along⟩ := transition_ok on moves
    have signIn := mem_signInTags_of_transition moves
    have changed : next ≠ flow.state := (Login.ne_of_infix along).symm
    refine
      { same_login := ⟨rfl, rfl⟩
        one_reply := ⟨Engine.okBody, [next], [], rfl,
          Engine.extra_replyTo Engine.tagged_okBody request, .inl rfl,
          by simp [tagged, notClose, changed]⟩
        along_script := .inr (.inl along)
        closes := fun closing => by rw [tagged] at closing; cases closing; exact absurd rfl notClose
        fits := fun _ _ _ _ _ => ⟨along, rfl⟩
        misfits := fun tag' tagged' _ unfit => by
          rw [tagged] at tagged'; cases tagged'; exact absurd ⟨step, expects, fits⟩ unfit
        others := fun away => absurd signIn (away tag tagged).1
        ready_by_credential := fun ready _ => by
          obtain ⟨checked, credential⟩ := credential_of_ready expects (ready ▸ along)
          exact ⟨step, tag, checked, expects, tagged, fits, credential⟩ }
  · -- a step of sign-in that is refused
    exact Answers.of_stays (.inr (.inl (by
        rcases transition_error on refuses with ⟨message, rfl⟩ | ⟨rfl, -⟩
        · exact ⟨_, _, rfl⟩
        · exact ⟨_, _, rfl⟩)))
      (by simp [tagged, notClose])
      (fun step tag' expects tagged' fits => by
        rw [tagged] at tagged'; cases tagged'
        obtain ⟨next, moves⟩ := transition_of_fits on expects fits
        rw [moves] at refuses; cases refuses)
      (fun tag' tagged' _ => by
        rw [tagged] at tagged'; cases tagged'; exact transition_error on refuses)

/-- An answer keeps the flow on its script. -/
theorem Answers.onScript {flow flow' : AuthFlow} {request : Json} {messages : List Json}
    (answers : Answers flow request flow' messages) (on : flow.OnScript) : flow'.OnScript := by
  obtain ⟨sameLogin, sameSetting⟩ := answers.same_login
  unfold OnScript
  rw [sameLogin, sameSetting]
  rcases answers.along_script with same | along | ⟨-, closed⟩
  · exact same ▸ on
  · exact .inl (along.subset (by simp))
  · exact .inr closed

/-- After an answer, the last state update queued announces the new state. -/
theorem Answers.announced {flow flow' : AuthFlow} {request : Json} {messages queued : List Json}
    (answers : Answers flow request flow' messages)
    (last : (queued.filter Engine.isStateUpdate).getLast? = some (Engine.stateUpdate flow.state)) :
    ((queued ++ messages).filter Engine.isStateUpdate).getLast? =
      some (Engine.stateUpdate flow'.state) := by
  obtain ⟨body, before, after, rfl, -, kind, shape⟩ := answers.one_reply
  have reply := Engine.isStateUpdate_replyTo kind
  by_cases closing : Engine.tagOf request = some "close"
  · -- a close announces the closed state last
    simp only [closing, if_true] at shape
    obtain ⟨rfl, rfl⟩ := shape
    simp [List.filter_append, reply, answers.closes closing]
  · simp only [closing, if_false] at shape
    obtain ⟨rfl, rfl⟩ := shape
    by_cases same : flow'.state = flow.state
    · simp [List.filter_append, reply, same, last]
    · simp [List.filter_append, reply, same]

end AuthFlow

/-! ## The engine -/

namespace Engine

/-- An engine that plays sign-in for `login` as `flow` and has queued `queued`: the login and the
database setting are the ones it started with, its state is on the script, its queue holds all
it queued, and the last state update among them announces its state. -/
structure Plays (login : Login) (encrypted : Bool) (e : Engine) (flow : AuthFlow)
    (queued : List Json) : Prop where
  responder : e.responder = .authFlow flow
  same_login : flow.login = login
  same_setting : flow.encryptedDatabase = encrypted
  on_script : flow.OnScript
  inbox : e.inbox = queued.map encode
  announced : (queued.filter isStateUpdate).getLast? = some (stateUpdate flow.state)

section Playing

variable {login : Login} {encrypted : Bool}

/-- Reading a request that parses hands it, normalized, to the flow and queues its answer. -/
theorem send_of_parsed {e : Engine} {flow : AuthFlow} (responder : e.responder = .authFlow flow)
    {text : String} {request : Json} (parsed : Json.parseBytes text.toUTF8 = .ok request) :
    e.send text =
      { e with responder := .authFlow (flow.respond request.normalize).1,
               sent := e.sent ++ [request.normalize],
               inbox := e.inbox ++ (flow.respond request.normalize).2.map encode } := by
  unfold send
  rw [parsed]
  simp [Responder.respond, responder, enqueue]

theorem send_of_unparsed {e : Engine} {text : String} {problem : DecodeError}
    (unparsed : Json.parseBytes text.toUTF8 = .error problem) : e.send text = e := by
  unfold send
  rw [unparsed]

theorem plays_withAuthFlow :
    Plays login encrypted (withAuthFlow { login, encryptedDatabase := encrypted })
      { login, encryptedDatabase := encrypted } [stateUpdate .waitParameters] where
  responder := rfl
  same_login := rfl
  same_setting := rfl
  on_script := by
    left
    rcases login with ⟨code, registered, _ | password⟩ | token | token <;> cases encrypted <;>
      simp [Login.stages, Login.script]
  inbox := rfl
  announced := by simp

/-- Reading one more request keeps the engine playing its login. -/
theorem Plays.send {e : Engine} {flow : AuthFlow} {queued : List Json}
    (plays : Plays login encrypted e flow queued) (text : String) :
    ∃ flow' queued', Plays login encrypted (e.send text) flow' queued' := by
  rcases parsed : Json.parseBytes text.toUTF8 with problem | request
  · exact ⟨flow, queued, by rw [send_of_unparsed parsed]; exact plays⟩
  · have answers := AuthFlow.respond_answers plays.on_script request.normalize
    refine ⟨(flow.respond request.normalize).1, queued ++ (flow.respond request.normalize).2, ?_⟩
    rw [send_of_parsed plays.responder parsed]
    exact
      { responder := rfl
        same_login := answers.same_login.1.trans plays.same_login
        same_setting := answers.same_login.2.trans plays.same_setting
        on_script := answers.onScript plays.on_script
        inbox := by simp [plays.inbox]
        announced := answers.announced plays.announced }

/-- Whatever requests an engine playing sign-in reads, it keeps playing its login. -/
theorem plays_run (texts : List String) :
    ∃ flow queued, Plays login encrypted
      (texts.foldl Engine.send (withAuthFlow { login, encryptedDatabase := encrypted }))
      flow queued := by
  -- the invariant is carried along the requests with the engine generalized
  suffices carried : ∀ (e : Engine) flow queued, Plays login encrypted e flow queued →
      ∃ flow' queued', Plays login encrypted (texts.foldl Engine.send e) flow' queued' from
    carried _ _ _ plays_withAuthFlow
  induction texts with
  | nil => exact fun e flow queued plays => ⟨flow, queued, plays⟩
  | cons text rest ih =>
      intro e flow queued plays
      obtain ⟨flow', queued', plays'⟩ := plays.send text
      exact ih _ flow' queued' plays'

end Playing

/-- The scripted sign-in keeps to its script, whatever requests it reads: after any of them it
still plays its login, its state is a stage of the script or closed, and the last state update it
ever queued announces that state; the next request is either not read at all, or answered by
exactly one reply carrying its token, after the update it causes, moving the state only one stage
on or to closed, refusing steps out of turn and wrong credentials with a 400 (a wrong bot token
with a 401), and reaching ready only through a credential check. -/
theorem scripted_sign_in_keeps_to_its_script (login : Login) (encrypted : Bool)
    (texts : List String) :
    let e := texts.foldl Engine.send (withAuthFlow { login, encryptedDatabase := encrypted })
    ∃ flow queued, Plays login encrypted e flow queued ∧
      ∀ text, (∃ problem, Json.parseBytes text.toUTF8 = .error problem ∧ e.send text = e) ∨
        ∃ request, Json.parseBytes text.toUTF8 = .ok request ∧
          (e.send text).responder = .authFlow (flow.respond request.normalize).1 ∧
          (e.send text).inbox = e.inbox ++ (flow.respond request.normalize).2.map encode ∧
          AuthFlow.Answers flow request.normalize (flow.respond request.normalize).1
            (flow.respond request.normalize).2 := by
  intro e
  have run : ∃ flow queued, Plays login encrypted e flow queued := plays_run texts
  obtain ⟨flow, queued, plays⟩ := run
  refine ⟨flow, queued, plays, fun text => ?_⟩
  rcases parsed : Json.parseBytes text.toUTF8 with problem | request
  · exact .inl ⟨problem, rfl, send_of_unparsed parsed⟩
  · rw [send_of_parsed plays.responder parsed]
    exact .inr ⟨request, rfl, rfl, rfl, AuthFlow.respond_answers plays.on_script _⟩

end Engine

end Switchboard
