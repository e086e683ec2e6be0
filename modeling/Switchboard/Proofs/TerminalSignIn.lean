import Switchboard.Proofs.ScriptedSignIn

/-!
# Signing a user in at a terminal

A user signs in by typing the answers (`Prompt.Typed`) at a terminal. The terminal dialogue holds
the other end of an interactive authorizer's slots, the parameters having been supplied
beforehand, and the client signs in with that authorizer over the scripted sign-in.

At each stage before ready the dialogue writes the stage's questions and reads its lines
(`Prompt.questionsAt`, `Prompt.Typed.linesAt`), and the authorizer sends the operation built from
them (`Interactive.handle_stage`). So when the input holds, trimmed, the lines of consecutive
stages, the authorizer answers them all (`Interactive.sends_lines`, by induction over the stages
with the rest of the input and the output written so far generalized), and the rounds of sign-in
go as for any authorizer that answers each stage (`Authorizer.rounds_through`).

When the input holds each stage's lines, sign-in ends ready, the engine is sent exactly the
rounds' operations, and the dialogue ends well having written every question. When the input ends
before a line a stage needs, the dialogue ends with the input, nothing of that stage is sent, and
sign-in fails on the slot left empty (`Client.terminal_sign_in_sends_what_is_typed`).
-/

namespace Switchboard

/-! ## What each stage asks at a terminal -/

namespace Prompt

/-- What the dialogue writes at a state of sign-in. -/
def questionsAt : AuthState → String
  | .waitPhoneNumber => "Enter phone number: "
  | .waitCode true => "Enter code: "
  | .waitCode false =>
      "Enter code: " ++ "Phone number is not registered.\n" ++ "Enter first name: " ++
        "Enter last name: "
  | .waitPassword hint _ _ => passwordQuestion hint
  | _ => ""

namespace Typed

/-- The lines the dialogue reads at a state, as they read once trimmed. -/
def linesAt (typed : Typed) : AuthState → List String
  | .waitPhoneNumber => [typed.phone]
  | .waitCode true => [typed.code]
  | .waitCode false => [typed.code, typed.first, typed.last]
  | .waitPassword .. => typed.password.toList
  | _ => []

end Typed

end Prompt

/-! ## The authorizer between rounds -/

namespace Interactive

open Prompt

/-- The parameters slot at a state of sign-in: it holds the parameters until the engine asks for
them. -/
def paramsSlot (parameters : Parameters) (state : AuthState) : Handoff Parameters :=
  { name := "tdlib parameters", value := if state = .waitParameters then some parameters else none }

theorem paramsSlot_of_ne {parameters : Parameters} {state : AuthState}
    (asked : state ≠ .waitParameters) :
    paramsSlot parameters state = paramsSlot parameters .ready := by
  simp [paramsSlot, asked]

/-- An interactive authorizer between rounds of a terminal sign-in. -/
def resting (parameters : Handoff Parameters) (lines : List String) (output : String) :
    Interactive :=
  { parameters, prompt := some { lines, output } }

/-- A dialogue over `text` on an authorizer that holds the parameters waits for the first state. -/
theorem follow_start (parameters : Parameters) (text : String) :
    follow { (({} : Interactive).supplyParameters parameters).1 with
      prompt := some (Prompt.ofText text) } =
      resting (paramsSlot parameters .waitParameters) (Prompt.linesOf text) "" := by
  rfl

/-- A stage whose lines the input holds: the dialogue writes the stage's questions, reads the
lines and hands the answers over, and the authorizer sends the operation built from them. -/
theorem handle_stage {typed : Typed} {parameters : Parameters} {state : AuthState}
    {op : Operation} (asks : typed.operationAt parameters state = some op) {raw : List String}
    (read : raw.map Text.trim = typed.linesAt state) (rest : List String) (output : String)
    (c : Client) :
    (resting (paramsSlot parameters state) (raw ++ rest) output).handle c state =
      (resting (paramsSlot parameters .ready) rest (output ++ questionsAt state),
        (c.perform op).1, (c.perform op).2) := by
  cases state with
  | waitParameters =>
    cases asks
    rw [List.map_eq_nil_iff.1 read]
    simp only [questionsAt, String.append_empty]
    rfl
  | waitEncryptionKey isEncrypted =>
    cases asks
    rw [List.map_eq_nil_iff.1 read]
    simp only [questionsAt, String.append_empty]
    rfl
  | waitPhoneNumber =>
    cases asks
    obtain ⟨line, rfl, trimmed⟩ := List.map_eq_singleton_iff.1 read
    rw [← trimmed]
    rfl
  | waitCode registered =>
    cases registered with
    | true =>
      cases asks
      obtain ⟨line, rfl, trimmed⟩ := List.map_eq_singleton_iff.1 read
      rw [← trimmed]
      rfl
    | false =>
      -- the names are handed over before the code, into slots of their own
      cases asks
      obtain ⟨code, more, rfl, trimmedCode, read⟩ := List.map_eq_cons_iff.1 read
      obtain ⟨first, more, rfl, trimmedFirst, read⟩ := List.map_eq_cons_iff.1 read
      obtain ⟨last, rfl, trimmedLast⟩ := List.map_eq_singleton_iff.1 read
      rw [← trimmedCode, ← trimmedFirst, ← trimmedLast]
      simp only [questionsAt, ← String.append_assoc]
      rfl
  | waitPassword hint hasEmail pattern =>
    obtain ⟨password, named, rfl⟩ := Option.map_eq_some_iff.1 asks
    simp only [Typed.linesAt, named, Option.toList_some] at read
    obtain ⟨line, rfl, trimmed⟩ := List.map_eq_singleton_iff.1 read
    rw [← trimmed]
    rfl
  | waitBotToken | ready | loggingOut | closing | closed | unknown => cases asks

/-- Once the engine is ready, the dialogue ends well and its holder is gone. -/
theorem handle_ready (slot : Handoff Parameters) (lines : List String) (output : String)
    (c : Client) :
    (resting slot lines output).handle c .ready =
      ((resting slot lines output).endPrompt { lines, output } (.ok ()), c, .done ()) := by
  rfl

/-- The slot the authorizer takes from at a state the dialogue answers. -/
def awaitedSlot : AuthState → String
  | .waitParameters => "tdlib parameters"
  | .waitPhoneNumber => "phone number"
  | .waitCode _ => "code"
  | .waitPassword .. => "password"
  | _ => ""

/-- Input that ends before the lines a state needs: the dialogue ends with the input, having
handed nothing over, and the authorizer finds the slot it takes from closed. -/
theorem handle_short (parameters : Parameters) {typed : Typed} {state : AuthState}
    {raw : List String} (missing : raw.length < (typed.linesAt state).length) (output : String) :
    ∃ written, ∀ c, (resting (paramsSlot parameters state) raw output).handle c state =
      ((resting (paramsSlot parameters .ready) [] output).endPrompt
        { lines := [], output := written } (.error (.io "input closed")),
        c, .failed (.slotClosed (awaitedSlot state))) := by
  cases state with
  | waitPhoneNumber =>
    obtain rfl : raw = [] := by simpa [Typed.linesAt] using missing
    exact ⟨_, fun c => rfl⟩
  | waitCode registered =>
    cases registered with
    | true =>
      obtain rfl : raw = [] := by simpa [Typed.linesAt] using missing
      exact ⟨_, fun c => rfl⟩
    | false =>
      -- the input may end at the code, the first name or the last name
      rcases raw with _ | ⟨code, _ | ⟨first, _ | ⟨last, more⟩⟩⟩
      · exact ⟨_, fun c => rfl⟩
      · exact ⟨_, fun c => rfl⟩
      · exact ⟨_, fun c => rfl⟩
      · exact absurd missing (by simp [Typed.linesAt])
  | waitPassword hint hasEmail pattern =>
    obtain ⟨password, named⟩ : ∃ password, typed.password = some password := by
      cases set : typed.password with
      | none => simp [Typed.linesAt, set] at missing
      | some password => exact ⟨password, rfl⟩
    obtain rfl : raw = [] := by simpa [Typed.linesAt, named] using missing
    exact ⟨_, fun c => rfl⟩
  | waitParameters | waitEncryptionKey _ | waitBotToken | ready | loggingOut | closing | closed
    | unknown => simp [Typed.linesAt] at missing

/-- A dialogue that has ended does not go on. -/
theorem follow_of_ended {a : Interactive} {p : Prompt} (ended : a.prompt = some p)
    (finished : p.result.isSome = true) : a.follow = a := by
  unfold follow followFor
  simp [ended, finished]

/-- Closing an authorizer whose dialogue has ended leaves the dialogue as it is. -/
theorem close_prompt {a : Interactive} {p : Prompt} (ended : a.prompt = some p)
    (finished : p.result.isSome = true) : a.close.prompt = some p := by
  unfold close
  rw [follow_of_ended ?ended finished] <;> exact ended

/-- An authorizer whose dialogue has ended reports, once closed, what the dialogue wrote and how
it ended. -/
theorem report_close_endPrompt (a : Interactive) (p : Prompt) (result : Except AuthError Unit) :
    (Client.report (Authorizer.close (.interactive (a.endPrompt p result)))).dialogue =
      some (p.output, some result) := by
  simp only [Client.report, Authorizer.close, close_prompt (a := a.endPrompt p result) rfl rfl]
  rfl

section Lines

variable {typed : Typed} {registered encrypted : Bool} (parameters : Parameters)

/-- A dialogue whose input holds, trimmed, the lines of consecutive stages, from the flow's up to
`last` excluded: the authorizer answers each stage with the operation built from its lines, and
the dialogue writes the stages' questions. -/
theorem sends_lines (pre : List AuthState) {state last : AuthState}
    (along : state :: pre ++ [last] <:+: (typed.login registered).stages encrypted)
    {raw : List String} (read : raw.map Text.trim = (state :: pre).flatMap typed.linesAt)
    (rest : List String) (output : String) :
    Authorizer.Sends (typed.operationAt parameters)
      (.interactive (resting (paramsSlot parameters state) (raw ++ rest) output)) (state :: pre)
      (.interactive (resting (paramsSlot parameters last) rest
        (output ++ String.join ((state :: pre).map questionsAt)))) := by
  induction pre generalizing state raw output with
  | nil =>
    have pair : [state, last] <:+: (typed.login registered).stages encrypted := along
    obtain ⟨op, asks, -⟩ := Typed.operation_along parameters pair
    have stage : ∀ c, (resting (paramsSlot parameters state) (raw ++ rest) output).handle c state =
        (resting (paramsSlot parameters last) rest (output ++ questionsAt state),
          (c.perform op).1, (c.perform op).2) := fun c => by
      rw [handle_stage asks (by simpa using read), paramsSlot_of_ne (Login.going_of_infix pair).2.2.2]
    rw [List.map_singleton, String.join_cons, String.join_nil, String.append_empty]
    exact .cons_interactive asks stage (.nil _)
  | cons next pre ih =>
    have pair : [state, next] <:+: (typed.login registered).stages encrypted :=
      (List.infix_cons_iff.2 (.inl (by simp))).trans along
    obtain ⟨op, asks, -⟩ := Typed.operation_along parameters pair
    obtain ⟨raw₁, raw₂, rfl, read₁, read₂⟩ := List.map_eq_append_iff.1 (by simpa using read)
    have stage : ∀ c, (resting (paramsSlot parameters state) (raw₁ ++ raw₂ ++ rest) output).handle
        c state = (resting (paramsSlot parameters next) (raw₂ ++ rest) (output ++ questionsAt state),
          (c.perform op).1, (c.perform op).2) := fun c => by
      rw [List.append_assoc, handle_stage asks read₁,
        paramsSlot_of_ne (Login.going_of_infix pair).2.2.2]
    rw [List.map_cons, String.join_cons, ← String.append_assoc]
    exact .cons_interactive asks stage (ih ((List.suffix_cons _ _).isInfix.trans along) read₂ _)

end Lines

end Interactive

/-! ## Signing in from a new client -/

namespace Client

open Prompt Interactive Authorizer

/-- A user signs in at a terminal on a new client over the scripted sign-in, with the parameters
supplied beforehand. When the input's lines, trimmed, are what each stage asks for, sign-in is
ready, the engine has been sent each round's query and operation, built from those lines, and
nothing else, and the dialogue ends well having written each stage's questions. When the input
ends before a line that a stage needs, the dialogue ends with the input, the engine has been sent
the earlier rounds and the query of that stage only, and sign-in fails on the slot left empty. -/
theorem terminal_sign_in_sends_what_is_typed {settings : Settings}
    (valid : settings.validate = .ok ()) (settles : settings.settleDelay.nanos ≤ patience.nanos)
    {tokens : Nat → String} (named : ∀ n, tokens n ≠ "") (typed : Typed)
    (registered encrypted : Bool) (parameters : Parameters) (text : String) :
    ∃ c, spawn settings (Engine.withAuthFlow ⟨typed.login registered, encrypted, .waitParameters⟩)
        tokens = .ok c ∧
      let started := c.startWith (.interactive (follow { (({} : Interactive).supplyParameters
        parameters).1 with prompt := some (Prompt.ofText text) }))
      ((Prompt.linesOf text).map Text.trim =
          ((typed.login registered).stages encrypted).flatMap typed.linesAt →
        started.2.2 = some (.ok ()) ∧
        started.2.1.handle.engine.sent = Operation.loggedFrom tokens 0
          (((typed.login registered).stages encrypted).flatMap (typed.roundAt parameters)) ∧
        (report started.1).dialogue =
          some (String.join (((typed.login registered).stages encrypted).map questionsAt),
            some (.ok ()))) ∧
      (∀ pre state post given, (typed.login registered).stages encrypted = pre ++ state :: post →
        (Prompt.linesOf text).map Text.trim = pre.flatMap typed.linesAt ++ given →
        given.length < (typed.linesAt state).length →
        started.2.2 = some (.error (.authorization (.slotClosed (awaitedSlot state)))) ∧
        started.2.1.handle.engine.sent = Operation.loggedFrom tokens 0
          (pre.flatMap (typed.roundAt parameters) ++ [.getAuthorizationState]) ∧
        ∃ written, (report started.1).dialogue =
          some (written, some (.error (.io "input closed")))) := by
  obtain ⟨c, spawned, fresh⟩ :=
    spawn_authFlow valid ⟨typed.login registered, encrypted, .waitParameters⟩ tokens
  refine ⟨c, spawned, ?_⟩
  dsimp only
  rw [follow_start, Authorizer.roundAt_eq_roundFor]
  have takes : ∀ state next, [state, next] <:+: (typed.login registered).stages encrypted →
      ∃ op, typed.operationAt parameters state = some op ∧
        (typed.login registered).Takes encrypted state op next :=
    fun _ _ along => Typed.operation_along parameters along
  constructor
  · -- the dialogue answers every stage before ready, and ends well at ready
    intro read
    have read' : (Prompt.linesOf text).map Text.trim = (.waitParameters ::
        ((typed.login registered).script encrypted).tail.map (·.1)).flatMap typed.linesAt := by
      rw [read, Login.stages_eq_cons, ← List.cons_append, List.flatMap_append]
      simp [Typed.linesAt]
    have answers := sends_lines parameters
      (((typed.login registered).script encrypted).tail.map (·.1)) (List.infix_refl _) read' [] ""
    rw [List.append_nil] at answers
    obtain ⟨c', started, -, sent⟩ := fresh.startWith_answering settles named takes rfl answers
      fun c => handle_interactive (handle_ready _ _ _ c)
    rw [started]
    refine ⟨rfl, sent, ?_⟩
    rw [report_close_endPrompt, Login.stages_eq_cons]
    simp [questionsAt]
  · intro pre state post given split read short
    -- the stage the input runs out at reads lines, so it is not the first, which reads none
    cases pre with
    | nil =>
      rw [Login.stages_eq_cons, List.nil_append, List.cons.injEq] at split
      obtain ⟨rfl, -⟩ := split
      simp [Typed.linesAt] at short
    | cons first pre =>
      obtain rfl : first = .waitParameters := by
        rw [Login.stages_eq_cons, List.cons_append, List.cons.injEq] at split
        exact split.1.symm
      have along : .waitParameters :: pre ++ [state] <:+:
          (typed.login registered).stages encrypted := ⟨[], post, by rw [split]; simp⟩
      obtain ⟨raw, rest, lines, read₁, read₂⟩ := List.map_eq_append_iff.1 read
      have missing : rest.length < (typed.linesAt state).length := by
        rw [← read₂, List.length_map] at short
        exact short
      have answers := sends_lines parameters pre along read₁ rest ""
      rw [← lines] at answers
      obtain ⟨written, handled⟩ := handle_short parameters missing
        ("" ++ String.join ((AuthState.waitParameters :: pre).map questionsAt))
      obtain ⟨c', started, sent⟩ := fresh.startWith_failing named takes pre along answers
        fun c => handle_interactive (handled c)
      rw [started]
      exact ⟨rfl, (shutdown_sent c').trans sent, written, report_close_endPrompt _ _ _⟩

/-- A number not yet registered, typed with the names and no password, over an encrypted
database, with the default settings. -/
theorem terminal_sign_in_of_an_unregistered_number :
    let typed : Typed := ⟨"+15550100", "12345", "Ada", "Lovelace", none⟩
    let text := "+15550100\n 12345 \nAda\nLovelace\n"
    let tokens := fun n : Nat => "tok-" ++ toString n
    Settings.default.validate = .ok () ∧ Settings.default.settleDelay.nanos ≤ patience.nanos ∧
      (∀ n, tokens n ≠ "") ∧
      ∃ c, spawn Settings.default (Engine.withAuthFlow ⟨typed.login false, true, .waitParameters⟩)
          tokens = .ok c ∧
        let started := c.startWith (.interactive (follow { (({} : Interactive).supplyParameters
          {}).1 with prompt := some (Prompt.ofText text) }))
        ((Prompt.linesOf text).map Text.trim =
            ((typed.login false).stages true).flatMap typed.linesAt →
          started.2.2 = some (.ok ()) ∧
          started.2.1.handle.engine.sent = Operation.loggedFrom tokens 0
            (((typed.login false).stages true).flatMap (typed.roundAt {})) ∧
          (report started.1).dialogue =
            some (String.join (((typed.login false).stages true).map questionsAt),
              some (.ok ()))) ∧
        (∀ pre state post given, (typed.login false).stages true = pre ++ state :: post →
          (Prompt.linesOf text).map Text.trim = pre.flatMap typed.linesAt ++ given →
          given.length < (typed.linesAt state).length →
          started.2.2 = some (.error (.authorization (.slotClosed (awaitedSlot state)))) ∧
          started.2.1.handle.engine.sent = Operation.loggedFrom tokens 0
            (pre.flatMap (typed.roundAt {}) ++ [.getAuthorizationState]) ∧
          ∃ written, (report started.1).dialogue =
            some (written, some (.error (.io "input closed")))) :=
  ⟨rfl, by decide, fun n => by simp,
    terminal_sign_in_sends_what_is_typed rfl (by decide) (fun n => by simp) _ false true {} _⟩

end Client

end Switchboard
