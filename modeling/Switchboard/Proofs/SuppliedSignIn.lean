import Switchboard.Proofs.ScriptedSignIn

/-!
# Signing in with answers given beforehand

Two authorizers sign in without asking anyone: a bot authorizer, which has its token and its
parameters from the start, and an interactive authorizer to which its holder has supplied the
parameters and a user's answers before sign-in starts (`Prompt.Typed.supplied`), whether the
holder then keeps the handle or lets it go.

Each answers every stage of its sign-in with one operation: the bot what `Bot.operationAt` gives
(`Bot.sends_stages`, by induction over the stages, since the bot stays open and keeps its token
and parameters), the interactive authorizer what the user's answers call for, each taken from a
slot that the earlier stages left as it was (`Interactive.Holds.sends`). So over the scripted
sign-in, for every login and either encryption setting, starting a new client with the matching
authorizer ends ready, the client at rest, and the engine has been sent the query for the state
and, at each stage before ready, exactly that stage's operation and a new query, with no close
(`Client.start_sends_one_answer_per_stage`).
-/

namespace Switchboard

/-! ## A bot authorizer -/

namespace Bot

/-- What a bot authorizer with `token` and `parameters` sends at a state of sign-in: the
parameters, the empty database key, and the token wherever a phone number or a token is asked
for. -/
def operationAt (token : String) (parameters : Parameters) : AuthState → Option Operation
  | .waitParameters => some (.setParameters parameters)
  | .waitEncryptionKey _ => some (.checkEncryptionKey "")
  | .waitPhoneNumber | .waitBotToken => some (.checkBotToken token)
  | _ => none

/-- A bot authorizer not closed records each state it handles and sends what it has for it. -/
theorem handle_sends {b : Bot} (opened : b.closed = false) {state : AuthState} {op : Operation}
    (asks : operationAt b.token b.parameters state = some op) (c : Client) :
    b.handle c state =
      ({ b with history := b.history.record state }, (c.perform op).1, (c.perform op).2) := by
  obtain ⟨token, parameters, history, taken, closed⟩ := b
  cases opened
  cases state <;> cases asks <;> rfl

/-- At a state it has nothing for, a bot authorizer only records the state. -/
theorem handle_quiet (b : Bot) {state : AuthState}
    (quiet : operationAt b.token b.parameters state = none) (c : Client) :
    b.handle c state = ({ b with history := b.history.record state }, c, .done ()) := by
  cases state <;> first | rfl | cases quiet

/-- A bot authorizer not closed answers, one after another, any states it has something for. -/
theorem sends_stages (b : Bot) (opened : b.closed = false) (states : List AuthState)
    (asks : ∀ state ∈ states, (operationAt b.token b.parameters state).isSome) :
    ∃ b', Authorizer.Sends (operationAt b.token b.parameters) (.bot b) states (.bot b') := by
  -- the bot stays open and keeps its token and parameters; only its history grows
  induction states generalizing b with
  | nil => exact ⟨b, .nil _⟩
  | cons state rest ih =>
    obtain ⟨op, found⟩ := Option.isSome_iff_exists.1 (asks state List.mem_cons_self)
    obtain ⟨b', later⟩ := ih { b with history := b.history.record state } opened
      (fun other mem => asks other (List.mem_cons_of_mem _ mem))
    exact ⟨b', .cons found (fun c => Authorizer.handle_bot (handle_sends opened found c)) later⟩

/-- A bot has something to send at every stage of its sign-in before ready. -/
theorem isSome_operationAt {token : String} (parameters : Parameters) {login : Login}
    (bot : login.botToken? = some token) (encrypted : Bool) :
    ∀ state ∈ .waitParameters :: (login.script encrypted).tail.map (·.1),
      (operationAt token parameters state).isSome := by
  rcases login with ⟨code, registered, password⟩ | token' | token' <;> cases bot <;>
    cases encrypted <;> simp [Login.script, operationAt]

/-- At a stage of a bot's sign-in followed by another, the bot authorizer's operation takes the
sign-in to the next stage. -/
theorem operation_along {token : String} (parameters : Parameters) {login : Login}
    (bot : login.botToken? = some token) {encrypted : Bool} {state next : AuthState}
    (along : [state, next] <:+: login.stages encrypted) :
    ∃ op, operationAt token parameters state = some op ∧ login.Takes encrypted state op next := by
  -- one case per bot login and per pair of consecutive stages
  rcases login with ⟨code, registered, password⟩ | token' | token' <;> cases bot <;>
    cases encrypted <;>
    simp [Login.stages, Login.script, List.infix_cons_iff, List.cons_prefix_cons] at along <;>
    rcases along with ⟨rfl, rfl⟩ | ⟨rfl, rfl⟩ | ⟨rfl, rfl⟩ <;>
    refine ⟨_, rfl, rfl, ?_, ?_, fun t => ?_⟩ <;>
    simp_all [Operation.typeName, AuthFlow.transition, AuthFlow.afterKey, Login.botToken?,
      Operation.stringField_checkBotToken]

end Bot

/-! ## An interactive authorizer supplied beforehand -/

namespace Prompt.Typed

/-- An interactive authorizer to which its holder has supplied the parameters and the answers:
the phone number and the code, the names when the number is not registered, and the password when
the account has one. -/
def supplied (typed : Typed) (registered : Bool) (parameters : Parameters) : Interactive :=
  let a := (({} : Interactive).supplyParameters parameters).1
  let a := ((a.supply (.phoneNumber typed.phone)).1.supply (.code typed.code)).1
  let a := if registered then a else (a.supply (.names typed.first typed.last)).1
  typed.password.elim a fun password => (a.supply (.password password)).1

end Prompt.Typed

namespace Interactive

open Prompt

/-- An interactive authorizer with no dialogue whose slots hold the parameters and a user's
answers: the names when the number is not registered and the password when the account has
one. -/
structure Holds (a : Interactive) (typed : Typed) (registered : Bool) (parameters : Parameters) :
    Prop where
  silent : a.prompt = none
  params : a.parameters.value = some parameters
  phone : a.phoneNumber.value = some typed.phone
  code : a.code.value = some typed.code
  names : registered = false → a.names.value = some (typed.first, typed.last)
  password : ∀ password, typed.password = some password → a.password.value = some password

theorem holds_supplied (typed : Typed) (registered : Bool) (parameters : Parameters) :
    (typed.supplied registered parameters).Holds typed registered parameters := by
  -- each slot is empty and open when its value is supplied
  obtain ⟨phone, code, first, last, _ | password⟩ := typed <;> cases registered <;>
    refine ⟨rfl, rfl, rfl, rfl, fun unregistered => ?_, fun given set => ?_⟩ <;>
    first | rfl | cases unregistered | (cases set; rfl) | cases set

/-- A holder that lets the authorizer go leaves in it what was supplied. -/
theorem Holds.abandon {a : Interactive} {typed : Typed} {registered : Bool}
    {parameters : Parameters} (held : a.Holds typed registered parameters) :
    a.abandon.Holds typed registered parameters :=
  ⟨held.silent, held.params, held.phone, held.code, held.names, held.password⟩

section Silent

/-! With no dialogue to follow, handling a state records it and takes from the slot the state
asks for, leaving the other slots as they were. -/

variable {a : Interactive}

theorem handle_held_parameters (silent : a.prompt = none) {parameters : Parameters}
    (held : a.parameters.value = some parameters) (c : Client) :
    a.handle c .waitParameters =
      ({ a with history := a.history.record .waitParameters,
                parameters := { a.parameters with value := none } },
        (c.perform (.setParameters parameters)).1, (c.perform (.setParameters parameters)).2) := by
  obtain ⟨⟨name, value, closed, abandoned⟩, phone, code, names, password, history, prompt⟩ := a
  cases silent
  cases held
  rfl

theorem handle_silent_key (silent : a.prompt = none) (isEncrypted : Bool) (c : Client) :
    a.handle c (.waitEncryptionKey isEncrypted) =
      ({ a with history := a.history.record (.waitEncryptionKey isEncrypted) },
        (c.perform (.checkEncryptionKey "")).1, (c.perform (.checkEncryptionKey "")).2) := by
  obtain ⟨parameters, phone, code, names, password, history, prompt⟩ := a
  cases silent
  rfl

theorem handle_held_phone (silent : a.prompt = none) {number : String}
    (held : a.phoneNumber.value = some number) (c : Client) :
    a.handle c .waitPhoneNumber =
      ({ a with history := a.history.record .waitPhoneNumber,
                phoneNumber := { a.phoneNumber with value := none } },
        (c.perform (.setPhoneNumber number false false)).1,
        (c.perform (.setPhoneNumber number false false)).2) := by
  obtain ⟨parameters, ⟨name, value, closed, abandoned⟩, code, names, password, history, prompt⟩ := a
  cases silent
  cases held
  rfl

theorem handle_held_code (silent : a.prompt = none) {code : String}
    (held : a.code.value = some code) (c : Client) :
    a.handle c (.waitCode true) =
      ({ a with history := a.history.record (.waitCode true),
                code := { a.code with value := none } },
        (c.perform (.checkCode code "" "")).1, (c.perform (.checkCode code "" "")).2) := by
  obtain ⟨parameters, phone, ⟨name, value, closed, abandoned⟩, names, password, history, prompt⟩ :=
    a
  cases silent
  cases held
  rfl

/-- A number not registered takes the code and then the names, each from its own slot. -/
theorem handle_held_names (silent : a.prompt = none) {code first last : String}
    (held : a.code.value = some code) (named : a.names.value = some (first, last)) (c : Client) :
    a.handle c (.waitCode false) =
      ({ a with history := a.history.record (.waitCode false),
                code := { a.code with value := none }, names := { a.names with value := none } },
        (c.perform (.checkCode code first last)).1, (c.perform (.checkCode code first last)).2) := by
  obtain ⟨parameters, phone, ⟨name, value, closed, abandoned⟩,
    ⟨name', value', closed', abandoned'⟩, password, history, prompt⟩ := a
  cases silent
  cases held
  cases named
  rfl

theorem handle_held_password (silent : a.prompt = none) {password : String}
    (held : a.password.value = some password) (hint : String) (hasEmail : Bool) (pattern : String) (c : Client) :
    a.handle c (.waitPassword hint hasEmail pattern) =
      ({ a with history := a.history.record (.waitPassword hint hasEmail pattern),
                password := { a.password with value := none } },
        (c.perform (.checkPassword password)).1, (c.perform (.checkPassword password)).2) := by
  obtain ⟨parameters, phone, code, names, ⟨name, value, closed, abandoned⟩, history, prompt⟩ := a
  cases silent
  cases held
  rfl

theorem handle_silent_ready (silent : a.prompt = none) (c : Client) :
    a.handle c .ready = ({ a with history := a.history.record .ready }, c, .done ()) := by
  obtain ⟨parameters, phone, code, names, password, history, prompt⟩ := a
  cases silent
  rfl

end Silent

/-- An authorizer holding the parameters and a user's answers answers every stage of the user's
sign-in before ready. -/
theorem Holds.sends {a : Interactive} {typed : Typed} {registered : Bool}
    {parameters : Parameters} (held : a.Holds typed registered parameters) (encrypted : Bool) :
    ∃ a', Authorizer.Sends (typed.operationAt parameters) (.interactive a)
        (.waitParameters :: ((typed.login registered).script encrypted).tail.map (·.1))
        (.interactive a') ∧ a'.prompt = none := by
  -- the user's own stages take from slots that the parameters and the key left as they were
  have user : ∀ b : Interactive, b.prompt = none → b.phoneNumber = a.phoneNumber →
      b.code = a.code → b.names = a.names → b.password = a.password →
      ∃ b', Authorizer.Sends (typed.operationAt parameters) (.interactive b)
        (((typed.login registered).script false).tail.map (·.1)) (.interactive b') ∧
        b'.prompt = none := by
    intro b silent samePhone sameCode sameNames samePassword
    have phone : b.phoneNumber.value = some typed.phone := samePhone ▸ held.phone
    have code : b.code.value = some typed.code := sameCode ▸ held.code
    have names : registered = false → b.names.value = some (typed.first, typed.last) :=
      sameNames ▸ held.names
    have password : ∀ password, typed.password = some password →
        b.password.value = some password := samePassword ▸ held.password
    -- the stage lemmas are stated for the authorizer each stage leaves, so their slot facts are
    -- left as goals and closed by the facts about `b`
    obtain ⟨number, digits, first, last, _ | secret⟩ := typed <;> cases registered
    · refine ⟨_, .cons_interactive rfl (handle_held_phone ?_ ?_)
        (.cons_interactive rfl (handle_held_names ?_ ?_ ?_) (.nil _)), ?_⟩ <;>
        first | assumption | exact names rfl
    · refine ⟨_, .cons_interactive rfl (handle_held_phone ?_ ?_)
        (.cons_interactive rfl (handle_held_code ?_ ?_) (.nil _)), ?_⟩ <;>
        assumption
    · refine ⟨_, .cons_interactive rfl (handle_held_phone ?_ ?_)
        (.cons_interactive rfl (handle_held_names ?_ ?_ ?_)
          (.cons_interactive rfl (handle_held_password ?_ ?_ _ _ _) (.nil _))), ?_⟩ <;>
        first | assumption | exact names rfl | exact password secret rfl
    · refine ⟨_, .cons_interactive rfl (handle_held_phone ?_ ?_)
        (.cons_interactive rfl (handle_held_code ?_ ?_)
          (.cons_interactive rfl (handle_held_password ?_ ?_ _ _ _) (.nil _))), ?_⟩ <;>
        first | assumption | exact password secret rfl
  cases encrypted with
  | false =>
    obtain ⟨a', later, quiet⟩ := user
      { a with history := a.history.record .waitParameters,
               parameters := { a.parameters with value := none } } held.silent rfl rfl rfl rfl
    exact ⟨a', .cons_interactive rfl (handle_held_parameters held.silent held.params) later,
      quiet⟩
  | true =>
    obtain ⟨a', later, quiet⟩ := user
      { a with history := (a.history.record .waitParameters).record (.waitEncryptionKey false),
               parameters := { a.parameters with value := none } } held.silent rfl rfl rfl rfl
    refine ⟨a', .cons_interactive rfl (handle_held_parameters held.silent held.params)
      (.cons_interactive rfl (handle_silent_key ?_ false) later), quiet⟩
    exact held.silent

end Interactive

/-! ## Signing in from a new client -/

namespace Client

open Prompt

/-- Over the scripted sign-in, for every login and either encryption setting, a new client
started with a bot authorizer for a bot login, or with an interactive authorizer to which the
parameters and a user's answers were supplied for a user login, kept or let go by its holder,
ends ready and at rest, and the engine has been sent the query for the state and, at each stage
before ready, exactly the operation that answers it and a new query, and nothing else. -/
theorem start_sends_one_answer_per_stage {settings : Settings}
    (valid : settings.validate = .ok ()) (settles : settings.settleDelay.nanos ≤ patience.nanos)
    {tokens : Nat → String} (named : ∀ n, tokens n ≠ "") (parameters : Parameters)
    (encrypted : Bool) :
    (∀ (login : Login) (token : String), login.botToken? = some token →
      ∃ c, spawn settings (Engine.withAuthFlow ⟨login, encrypted, .waitParameters⟩) tokens =
          .ok c ∧
        let started := c.startWith (.bot { token, parameters })
        started.2.2 = some (.ok ()) ∧ started.2.1.Idle ∧
        started.2.1.handle.engine.sent = Operation.loggedFrom tokens 0
          ((login.stages encrypted).flatMap (Authorizer.roundFor (Bot.operationAt token parameters)))) ∧
    (∀ (typed : Typed) (registered : Bool) (a : Interactive),
      a = typed.supplied registered parameters ∨ a = (typed.supplied registered parameters).abandon →
      ∃ c, spawn settings (Engine.withAuthFlow ⟨typed.login registered, encrypted, .waitParameters⟩)
          tokens = .ok c ∧
        let started := c.startWith (.interactive a)
        started.2.2 = some (.ok ()) ∧ started.2.1.Idle ∧
        started.2.1.handle.engine.sent = Operation.loggedFrom tokens 0
          (((typed.login registered).stages encrypted).flatMap (typed.roundAt parameters))) := by
  constructor
  · intro login token bot
    obtain ⟨c, spawned, fresh⟩ := spawn_authFlow valid ⟨login, encrypted, .waitParameters⟩ tokens
    obtain ⟨b', answers⟩ := Bot.sends_stages { token, parameters } rfl _
      (Bot.isSome_operationAt parameters bot encrypted)
    obtain ⟨c', started, idle, sent⟩ := fresh.startWith_answering settles named
      (fun _ _ along => Bot.operation_along parameters bot along) rfl answers
      fun c => Authorizer.handle_bot (Bot.handle_quiet b' rfl c)
    refine ⟨c, spawned, ?_⟩
    dsimp only
    rw [started]
    exact ⟨rfl, idle, sent⟩
  · intro typed registered a given
    obtain ⟨c, spawned, fresh⟩ :=
      spawn_authFlow valid ⟨typed.login registered, encrypted, .waitParameters⟩ tokens
    have held : a.Holds typed registered parameters := by
      rcases given with rfl | rfl
      · exact Interactive.holds_supplied typed registered parameters
      · exact (Interactive.holds_supplied typed registered parameters).abandon
    obtain ⟨a', answers, silent⟩ := held.sends encrypted
    obtain ⟨c', started, idle, sent⟩ := fresh.startWith_answering settles named
      (fun _ _ along => Typed.operation_along parameters along) rfl answers
      fun c => Authorizer.handle_interactive (Interactive.handle_silent_ready silent c)
    refine ⟨c, spawned, ?_⟩
    dsimp only
    rw [started, Authorizer.roundAt_eq_roundFor]
    exact ⟨rfl, idle, sent⟩

/-- The default settings, tokens numbered from one, empty parameters and an encrypted
database. -/
theorem start_sends_one_answer_per_stage_by_default :
    let tokens := fun n : Nat => "tok-" ++ toString n
    Settings.default.validate = .ok () ∧ Settings.default.settleDelay.nanos ≤ patience.nanos ∧
      (∀ n, tokens n ≠ "") ∧
      (∀ (login : Login) (token : String), login.botToken? = some token →
        ∃ c, spawn Settings.default (Engine.withAuthFlow ⟨login, true, .waitParameters⟩) tokens =
            .ok c ∧
          let started := c.startWith (.bot { token, parameters := {} })
          started.2.2 = some (.ok ()) ∧ started.2.1.Idle ∧
          started.2.1.handle.engine.sent = Operation.loggedFrom tokens 0
            ((login.stages true).flatMap (Authorizer.roundFor (Bot.operationAt token {})))) ∧
      (∀ (typed : Typed) (registered : Bool) (a : Interactive),
        a = typed.supplied registered {} ∨ a = (typed.supplied registered {}).abandon →
        ∃ c, spawn Settings.default
            (Engine.withAuthFlow ⟨typed.login registered, true, .waitParameters⟩) tokens = .ok c ∧
          let started := c.startWith (.interactive a)
          started.2.2 = some (.ok ()) ∧ started.2.1.Idle ∧
          started.2.1.handle.engine.sent = Operation.loggedFrom tokens 0
            (((typed.login registered).stages true).flatMap (typed.roundAt {}))) :=
  ⟨rfl, by decide, fun n => by simp,
    start_sends_one_answer_per_stage rfl (by decide) (fun n => by simp) {} true⟩

end Client

end Switchboard
