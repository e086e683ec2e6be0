import Switchboard.Auth.Authorizer

/-!
# Signing in

Signing in asks the engine for its sign-in state and hands each new state to the authorizer. A
state that did not change since the last one handled is not handed over again: the client waits
for the retry delay and asks again. Sign-in ends when the state is ready, after the settle delay,
or when the engine is closing or closed; an error from the engine or the authorizer ends it too.
Either way the authorizer is closed at the end.

A caller gives up waiting after two seconds; a sign-in that has not ended by then, or that waits
for a value nobody will supply, is stuck.
-/

namespace Switchboard

/-- How long a caller waits for sign-in to end. -/
def Client.patience : Duration := Duration.ofSeconds 2

/-- Asks the engine for its sign-in state. -/
def Client.authState (c : Client) : Client × Except ClientError AuthState :=
  match c.call .getAuthorizationState with
  | (c, .ok (.authState state)) => (c, .ok state)
  | (c, .ok _) => (c, .error (.decode (.unexpectedType "authorizationState" "ok")))
  | (c, .error problem) => (c, .error problem)

namespace Authorizer

/-- The most rounds sign-in takes before it counts as stuck. -/
def rounds : Nat := 4096

/-- Runs sign-in for at most `fuel` rounds; `answered` is the last state handled, and the run is
stuck once the clock passes `limit`. -/
def signInFor (limit : Nat) (h : Authorizer) (c : Client) (answered : Option AuthState) :
    Nat → Authorizer × Client × Run AuthState
  | 0 => (h, c, .stuck)
  | fuel + 1 =>
      match c.authState with
      | (c, .error problem) =>
          if c.now > limit then (h, c, .stuck) else (h, c, .failed (.client problem))
      | (c, .ok state) =>
          if c.now > limit then (h, c, .stuck)
          else if answered == some state then
            signInFor limit h (c.sleep c.settings.authRetryDelay) answered fuel
          else
            match h.handle c state with
            | (h, c, .failed problem) => (h, c, .failed problem)
            | (h, c, .stuck) => (h, c, .stuck)
            | (h, c, .done ()) =>
                if state.isReady then
                  let c := c.sleep c.settings.settleDelay
                  (h, c, if c.now > limit then .stuck else .done state)
                else if state.isTerminal then (h, c, .done state)
                else signInFor limit h c (some state) fuel

/-- Signs in, then closes the authorizer; a stuck run is left as it is. -/
def authorize (h : Authorizer) (c : Client) : Authorizer × Client × Run AuthState :=
  match signInFor (c.now + Client.patience.nanos) h c none rounds with
  | (h, c, .stuck) => (h, c, .stuck)
  | (h, c, run) => (h.close, c, run)

end Authorizer

end Switchboard
