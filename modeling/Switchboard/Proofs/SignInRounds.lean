import Mathlib
import Switchboard.Proofs.Stopping

/-!
# The rounds of sign-in

Sign-in goes in rounds: each asks the engine for its sign-in state and, when the state is new,
hands it to the authorizer. Here the loop is written once over any state `σ` and any way of
asking and handling (`SignIn.run`), so that it also returns the rounds it went through; sign-in
by an authorizer over a client is that loop (`signInFor_eq_run`).

Read off its rounds, every sign-in that ends goes the same way (`SignIn.Follows`): a round hands
its state over exactly when the state differs from the one the round before saw, so the states
handed over are the states seen with repeats in a row left out; no round but the last ends it;
and the last ends it with its result, the first error of asking or handling, or the first state
handed over that is ready or terminal. The authorizer is closed once, after the last round, and a
start keeps the client exactly when that state is ready.
-/

namespace Switchboard

namespace SignIn

/-- One round of sign-in: what asking for the state answered and, when the state was handed to
the authorizer, what handling it gave. -/
structure Round where
  answer : Except ClientError AuthState
  handled : Option (Run Unit) := none

namespace Round

/-- The state the round saw, if asking gave one. -/
def state? (r : Round) : Option AuthState := r.answer.toOption

/-- The state the round handed over, if it handed one. -/
def handedState? (r : Round) : Option AuthState := if r.handled.isSome then r.state? else none

/-- How the round ends sign-in, if it does: with the error of asking or of handling, or with a
handled state that is ready or terminal. -/
def ending : Round → Option (Run AuthState)
  | ⟨.error problem, _⟩ => some (.failed (.client problem))
  | ⟨.ok _, some (.failed problem)⟩ => some (.failed problem)
  | ⟨.ok state, some (.done ())⟩ =>
      if state.isReady || state.isTerminal then some (.done state) else none
  | ⟨.ok _, _⟩ => none

end Round

/-- What sign-in works on, `σ`, and what it does with it: ask for the state, hand a state over,
tell whether the caller has given up, wait before asking again, and wait for a ready state to
settle. -/
structure Steps (σ : Type) where
  ask : σ → σ × Except ClientError AuthState
  handle : σ → AuthState → σ × Run Unit
  late : σ → Bool
  retry : σ → σ
  settle : σ → σ

variable {σ : Type}

/-- Sign-in for at most `fuel` rounds, `answered` being the last state handed over: where it
leaves `σ`, how it ends, and its rounds. -/
def run (steps : Steps σ) (answered : Option AuthState) : Nat → σ → σ × Run AuthState × List Round
  | 0, s => (s, .stuck, [])
  | fuel + 1, s =>
      match steps.ask s with
      | (s, .error problem) =>
          (s, if steps.late s then .stuck else .failed (.client problem), [⟨.error problem, none⟩])
      | (s, .ok state) =>
          if steps.late s then (s, .stuck, [⟨.ok state, none⟩])
          else if answered == some state then
            let rest := run steps answered fuel (steps.retry s)
            (rest.1, rest.2.1, ⟨.ok state, none⟩ :: rest.2.2)
          else
            match steps.handle s state with
            | (s, .failed problem) => (s, .failed problem, [⟨.ok state, some (.failed problem)⟩])
            | (s, .stuck) => (s, .stuck, [⟨.ok state, some .stuck⟩])
            | (s, .done ()) =>
                if state.isReady then
                  (steps.settle s, if steps.late (steps.settle s) then .stuck else .done state,
                    [⟨.ok state, some (.done ())⟩])
                else if state.isTerminal then (s, .done state, [⟨.ok state, some (.done ())⟩])
                else
                  let rest := run steps (some state) fuel s
                  (rest.1, rest.2.1, ⟨.ok state, some (.done ())⟩ :: rest.2.2)

/-! ## How every sign-in that ends goes -/

/-- A round hands its state over exactly when asking gave a state that differs from `before`, the
state seen the round before. -/
def HandsOver (before : Option AuthState) (round : Round) : Prop :=
  round.handled.isSome = true ↔ ∃ state, round.answer = .ok state ∧ before ≠ some state

/-- How a sign-in went, read off its rounds, `answered` being the last state handed over before
them: a round hands its state over exactly when the state differs from the one seen the round
before, no round but the last ends sign-in, and the last ends it with `result`. -/
structure Follows (answered : Option AuthState) (rounds : List Round) (result : Run AuthState) :
    Prop where
  handsOverChanges : ∀ pair ∈ (answered :: rounds.map Round.state?).zip rounds,
    HandsOver pair.1 pair.2
  goesOn : ∀ round ∈ rounds.dropLast, round.ending = none
  endsWith : rounds.getLast?.bind Round.ending = some result

variable {answered : Option AuthState} {round : Round} {rounds : List Round}
  {result : Run AuthState}

theorem handsOver_error (before : Option AuthState) (problem : ClientError) :
    HandsOver before ⟨.error problem, none⟩ := by
  simp [HandsOver]

theorem handsOver_repeated (state : AuthState) :
    HandsOver (some state) ⟨.ok state, none⟩ := by
  simp [HandsOver]

theorem handsOver_fresh {before : Option AuthState} {state : AuthState} (fresh : before ≠ some state)
    (handled : Run Unit) : HandsOver before ⟨.ok state, some handled⟩ := by
  simpa [HandsOver] using fresh

/-- A last round that ends sign-in, handing its state over exactly when it is new. -/
theorem Follows.last (hands : HandsOver answered round) (ends : round.ending = some result) :
    Follows answered [round] result where
  handsOverChanges pair member := by
    simp only [List.zip_cons_cons, List.zip_nil_right, List.mem_singleton] at member
    exact member ▸ hands
  goesOn := by simp
  endsWith := by simpa using ends

/-- A round that does not end sign-in, before rounds that go on from the state it saw. -/
theorem Follows.cons (hands : HandsOver answered round) (going : round.ending = none)
    (rest : Follows round.state? rounds result) : Follows answered (round :: rounds) result := by
  have more : rounds ≠ [] := by
    rintro rfl
    cases rest.endsWith
  refine ⟨?_, ?_, ?_⟩
  · intro pair member
    rw [List.map_cons, List.zip_cons_cons, List.mem_cons] at member
    rcases member with first | later
    · exact first ▸ hands
    · exact rest.handsOverChanges pair later
  · intro other member
    rw [List.dropLast_cons_of_ne_nil more, List.mem_cons] at member
    rcases member with first | later
    · exact first ▸ going
    · exact rest.goesOn other later
  · rw [List.getLast?_cons_of_ne_nil more]
    exact rest.endsWith

theorem Follows.head (follows : Follows answered (round :: rounds) result) :
    HandsOver answered round :=
  follows.handsOverChanges (answered, round) (by simp)

/-- After a round that did not end sign-in, the later rounds go on from the state it saw. -/
theorem Follows.tail (follows : Follows answered (round :: rounds) result) (more : rounds ≠ []) :
    round.ending = none ∧ Follows round.state? rounds result := by
  refine ⟨follows.goesOn round (by simp [List.dropLast_cons_of_ne_nil more]), ?_, ?_, ?_⟩
  · intro pair member
    exact follows.handsOverChanges pair (by simp [member])
  · intro other member
    exact follows.goesOn other (by simp [List.dropLast_cons_of_ne_nil more, member])
  · rw [← List.getLast?_cons_of_ne_nil more]
    exact follows.endsWith

/-- Every sign-in that ends goes as `Follows` says, whatever it asks and however it handles. -/
theorem run_follows (steps : Steps σ) (answered : Option AuthState) (fuel : Nat) (s : σ)
    (ended : (run steps answered fuel s).2.1 ≠ .stuck) :
    Follows answered (run steps answered fuel s).2.2 (run steps answered fuel s).2.1 := by
  induction fuel generalizing answered s with
  | zero => exact absurd rfl ended
  | succ fuel ih =>
      rcases asked : steps.ask s with ⟨s, problem | state⟩
      · -- asking failed: sign-in ends, unless the caller has given up
        cases late : steps.late s
        · simp only [run, asked, late, Bool.false_eq_true, if_false]
          exact Follows.last (handsOver_error answered problem) rfl
        · simp [run, asked, late] at ended
      cases late : steps.late s
      case true => simp [run, asked, late] at ended
      by_cases repeated : answered = some state
      · -- the state did not change: ask again
        subst repeated
        simp only [run, asked, late, beq_self_eq_true, Bool.false_eq_true, if_false,
          if_true] at ended ⊢
        exact Follows.cons (handsOver_repeated state) rfl (ih _ _ ended)
      -- a new state is handed over
      have fresh : (answered == some state) = false := by simpa using repeated
      rcases handled : steps.handle s state with ⟨s, _ | problem | _⟩
      · simp only [run, asked, late, fresh, handled, Bool.false_eq_true, if_false] at ended ⊢
        by_cases ready : state.isReady
        · -- a ready state ends sign-in once it has settled
          cases settled : steps.late (steps.settle s)
          · simp only [ready, if_true, Bool.false_eq_true, if_false]
            exact Follows.last (handsOver_fresh repeated (.done ())) (by simp [Round.ending, ready])
          · simp [ready, settled] at ended
        by_cases terminal : state.isTerminal
        · simp only [ready, terminal, if_true, Bool.false_eq_true, if_false]
          exact Follows.last (handsOver_fresh repeated (.done ())) (by simp [Round.ending, terminal])
        · -- neither: sign-in goes on from the state
          simp only [ready, terminal, Bool.false_eq_true, if_false] at ended ⊢
          exact Follows.cons (handsOver_fresh repeated (.done ()))
            (by simp [Round.ending, ready, terminal]) (ih _ _ ended)
      · simp only [run, asked, late, fresh, handled, Bool.false_eq_true, if_false]
        exact Follows.last (handsOver_fresh repeated _) rfl
      · simp [run, asked, late, fresh, handled] at ended

/-! ## The states handed over -/

theorem destutter'_eq_cons_tail {α : Type} (R : α → α → Prop) [DecidableRel R] (a : α)
    (l : List α) : l.destutter' R a = a :: (l.destutter' R a).tail := by
  induction l with
  | nil => rfl
  | cons b l ih =>
      rw [List.destutter'_cons]
      split
      · rfl
      · exact ih

/-- A round whose asking failed is the last. -/
theorem Follows.rest_of_error {problem : ClientError} {handled : Option (Run Unit)}
    (follows : Follows answered (⟨.error problem, handled⟩ :: rounds) result) : rounds = [] := by
  by_contra more
  cases (follows.tail more).1

/-- The rounds after one that saw `state` hand over the states they see that differ from the one
seen before, starting from `state`. -/
theorem Follows.handed_after {state : AuthState} {handled : Option (Run Unit)}
    (follows : Follows answered (⟨.ok state, handled⟩ :: rounds) result)
    (later : ∀ {a : AuthState}, Follows (some a) rounds result →
      rounds.filterMap Round.handedState? =
        ((rounds.filterMap Round.state?).destutter' (· ≠ ·) a).tail) :
    rounds.filterMap Round.handedState? =
      ((rounds.filterMap Round.state?).destutter' (· ≠ ·) state).tail := by
  by_cases more : rounds = []
  · simp [more]
  · exact later (follows.tail more).2

/-- After a state handed over, the states handed over are the states seen with repeats in a row
left out. -/
theorem Follows.handed_of_some {a : AuthState} (follows : Follows (some a) rounds result) :
    rounds.filterMap Round.handedState? =
      ((rounds.filterMap Round.state?).destutter' (· ≠ ·) a).tail := by
  induction rounds generalizing a with
  | nil => rfl
  | cons round rest ih =>
      obtain ⟨answer, handled⟩ := round
      cases answer with
      | error problem =>
          have unseen : Round.state? ⟨.error problem, handled⟩ = none := rfl
          rw [follows.rest_of_error]
          simp [Round.handedState?, unseen]
      | ok state =>
          have later := follows.handed_after ih
          have hands := follows.head
          by_cases same : a = state
          · -- a repeat is not handed over
            subst same
            have unhanded : handled = none := by simpa [HandsOver] using hands
            simp [Round.handedState?, Round.state?, Except.toOption, unhanded, later]
          · -- a new state is handed over
            have handed : handled.isSome = true := by simpa [HandsOver, same] using hands
            rw [List.filterMap_cons, List.filterMap_cons]
            simp only [Round.handedState?, Round.state?, handed, if_true, Except.toOption]
            rw [List.destutter'_cons_pos _ same, List.tail_cons, later,
              ← destutter'_eq_cons_tail]

/-- The states handed over in a sign-in are the states seen with repeats in a row left out. -/
theorem Follows.handed_eq_destutter (follows : Follows none rounds result) :
    rounds.filterMap Round.handedState? = (rounds.filterMap Round.state?).destutter (· ≠ ·) := by
  cases rounds with
  | nil => rfl
  | cons round rest =>
      obtain ⟨answer, handled⟩ := round
      cases answer with
      | error problem =>
          have unseen : Round.state? ⟨.error problem, handled⟩ = none := rfl
          rw [follows.rest_of_error]
          simp [Round.handedState?, unseen]
      | ok state =>
          -- the first state seen is handed over
          have handed : handled.isSome = true := by simpa [HandsOver] using follows.head
          have later := follows.handed_after fun rest => rest.handed_of_some
          rw [List.filterMap_cons, List.filterMap_cons]
          simp only [Round.handedState?, Round.state?, handed, if_true, Except.toOption]
          rw [List.destutter_cons', later, ← destutter'_eq_cons_tail]

end SignIn

namespace Authorizer

/-- Sign-in by an authorizer over a client, the caller giving up once the clock passes `limit`. -/
def signInSteps (limit : Nat) : SignIn.Steps (Authorizer × Client) where
  ask := fun s => ((s.1, s.2.authState.1), s.2.authState.2)
  handle := fun s state =>
    (((s.1.handle s.2 state).1, (s.1.handle s.2 state).2.1), (s.1.handle s.2 state).2.2)
  late := fun s => decide (s.2.now > limit)
  retry := fun s => (s.1, s.2.sleep s.2.settings.authRetryDelay)
  settle := fun s => (s.1, s.2.sleep s.2.settings.settleDelay)

section Steps

variable (limit : Nat) (h : Authorizer) (c : Client)

@[simp] theorem signInSteps_ask :
    (signInSteps limit).ask (h, c) = ((h, c.authState.1), c.authState.2) := rfl

@[simp] theorem signInSteps_handle (state : AuthState) :
    (signInSteps limit).handle (h, c) state =
      (((h.handle c state).1, (h.handle c state).2.1), (h.handle c state).2.2) := rfl

@[simp] theorem signInSteps_late : (signInSteps limit).late (h, c) = decide (c.now > limit) := rfl

@[simp] theorem signInSteps_retry :
    (signInSteps limit).retry (h, c) = (h, c.sleep c.settings.authRetryDelay) := rfl

@[simp] theorem signInSteps_settle :
    (signInSteps limit).settle (h, c) = (h, c.sleep c.settings.settleDelay) := rfl

end Steps

/-- Sign-in by an authorizer is the sign-in loop over the authorizer and the client. -/
theorem signInFor_eq_run (limit : Nat) (h : Authorizer) (c : Client) (answered : Option AuthState)
    (fuel : Nat) :
    signInFor limit h c answered fuel =
      ((SignIn.run (signInSteps limit) answered fuel (h, c)).1.1,
        (SignIn.run (signInSteps limit) answered fuel (h, c)).1.2,
        (SignIn.run (signInSteps limit) answered fuel (h, c)).2.1) := by
  induction fuel generalizing h c answered with
  | zero => rfl
  | succ fuel ih =>
      simp only [signInFor, SignIn.run, signInSteps_ask]
      cases asked : c.authState with
      | mk c answer =>
          cases answer with
          | error problem =>
              by_cases late : c.now > limit <;> simp [late]
          | ok state =>
              by_cases late : c.now > limit
              · simp [late]
              by_cases repeated : answered == some state
              · simp [late, repeated, ih]
              simp only [signInSteps_late, late, repeated, signInSteps_handle, decide_false,
                Bool.false_eq_true, if_false]
              cases handled : h.handle c state with
              | mk h rest =>
                  obtain ⟨c, result⟩ := rest
                  cases result with
                  | failed problem => rfl
                  | stuck => rfl
                  | done =>
                      by_cases ready : state.isReady
                      · by_cases settled : (c.sleep c.settings.settleDelay).now > limit <;>
                          simp [ready, settled]
                      by_cases terminal : state.isTerminal
                      · simp [ready, terminal]
                      · simp [ready, terminal, ih]

/-- A sign-in the caller did not give up on closes the authorizer once, after its last round. -/
theorem authorize_of_ended {h : Authorizer} {c : Client} (ended : (h.authorize c).2.2 ≠ .stuck) :
    (SignIn.run (signInSteps (c.now + Client.patience.nanos)) none rounds (h, c)).2.1 ≠ .stuck ∧
      h.authorize c =
        ((SignIn.run (signInSteps (c.now + Client.patience.nanos)) none rounds (h, c)).1.1.close,
          (SignIn.run (signInSteps (c.now + Client.patience.nanos)) none rounds (h, c)).1.2,
          (SignIn.run (signInSteps (c.now + Client.patience.nanos)) none rounds (h, c)).2.1) := by
  unfold authorize at ended ⊢
  rw [signInFor_eq_run] at ended ⊢
  generalize SignIn.run (signInSteps (c.now + Client.patience.nanos)) none rounds (h, c) = run
    at ended ⊢
  obtain ⟨⟨h, c⟩, result, played⟩ := run
  cases result <;> simp_all

end Authorizer

theorem AuthState.isReady_iff {state : AuthState} : state.isReady = true ↔ state = .ready := by
  cases state <;> simp [AuthState.isReady]

theorem Client.shutdown_sent (c : Client) : c.shutdown.handle.engine.sent = c.handle.engine.sent :=
  teardown_sent _

namespace Authorizer

end Authorizer

end Switchboard
