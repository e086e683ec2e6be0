import Switchboard.Auth.Prompt
import Switchboard.Client.Basic

/-!
# Authorizers

An authorizer answers the sign-in states the engine reports, each by the request it calls for.
Both kinds record every state they are asked to handle in their history, then:

* a bot authorizer sends its parameters, the (empty) database key and its token; once closed it
  refuses to send parameters or the token;
* an interactive authorizer sends what its holder supplies through its slots, waiting for each
  value, and cannot sign in a bot that waits for its token. A terminal dialogue may hold the
  slots' other end: it follows the history as soon as a state is recorded, and when it ends the
  holder is gone.

States that call for nothing are handled by doing nothing. Closing an authorizer closes its slots
and ends its history.
-/

namespace Switchboard

/-- Sends an operation whose reply only matters for its failure. -/
def Client.perform (c : Client) (operation : Operation) : Client × Run Unit :=
  match c.call operation with
  | (c, .ok _) => (c, .done ())
  | (c, .error problem) => (c, .failed (.client problem))

/-- An authorizer for a bot. -/
structure Bot where
  token : String
  parameters : Parameters
  history : History := {}
  /-- Whether the history has been handed out. -/
  historyTaken : Bool := false
  closed : Bool := false

namespace Bot

/-- Handles one state. -/
def handle (b : Bot) (c : Client) (state : AuthState) : Bot × Client × Run Unit :=
  let b := { b with history := b.history.record state }
  let perform := fun (operation : Operation) =>
    let (c, run) := c.perform operation
    (b, c, run)
  match state with
  | .waitParameters =>
      if b.closed then (b, c, .failed (.slotClosed "tdlib parameters"))
      else perform (.setParameters b.parameters)
  | .waitEncryptionKey _ => perform (.checkEncryptionKey "")
  | .waitPhoneNumber | .waitBotToken =>
      if b.closed then (b, c, .failed (.slotClosed "bot token"))
      else perform (.checkBotToken b.token)
  | _ => (b, c, .done ())

/-- Closes the authorizer. -/
def close (b : Bot) : Bot := { b with closed := true, history := b.history.close }

/-- Hands out the history once: what it holds now; later states go unread. -/
def takeHistory (b : Bot) : Bot × Option (List AuthState) :=
  if b.historyTaken then (b, none)
  else ({ b with historyTaken := true, history := b.history.abandon }, some b.history.states)

/-- The debugging text of a bot authorizer; the token is never shown. -/
def debug (b : Bot) : String :=
  "BotAuthorizer \x7b token: \"<redacted>\", closed: " ++ toString b.closed ++ ", .. \x7d"

end Bot

/-- An authorizer fed through slots by its holder. -/
structure Interactive where
  parameters : Handoff Parameters := { name := "tdlib parameters" }
  phoneNumber : Handoff String := { name := "phone number" }
  code : Handoff String := { name := "code" }
  names : Handoff (String × String) := { name := "names" }
  password : Handoff String := { name := "password" }
  history : History := {}
  /-- The terminal dialogue holding the slots' other end, if any. -/
  prompt : Option Prompt := none

namespace Interactive

/-- Marks the holder as gone: nothing more will be supplied or read. -/
def abandon (a : Interactive) : Interactive :=
  { a with parameters := a.parameters.abandon, phoneNumber := a.phoneNumber.abandon,
           code := a.code.abandon, names := a.names.abandon, password := a.password.abandon,
           history := a.history.abandon }

/-- Hands an answer over to its slot. -/
def handOver (a : Interactive) : Answer → Interactive × Handoff.Supplied × String
  | .phoneNumber value =>
      let (slot, supplied) := a.phoneNumber.supply value
      ({ a with phoneNumber := slot }, supplied, slot.name)
  | .code value =>
      let (slot, supplied) := a.code.supply value
      ({ a with code := slot }, supplied, slot.name)
  | .names first last =>
      let (slot, supplied) := a.names.supply (first, last)
      ({ a with names := slot }, supplied, slot.name)
  | .password value =>
      let (slot, supplied) := a.password.supply value
      ({ a with password := slot }, supplied, slot.name)

/-- Ends the dialogue; its holder is then gone. -/
def endPrompt (a : Interactive) (p : Prompt) (result : Except AuthError Unit) : Interactive :=
  { a.abandon with prompt := some (p.finish result) }

/-- Lets the dialogue go on for at most `fuel` steps, until it waits for a state or for room in a
slot, or ends. -/
def followFor (a : Interactive) : Nat → Interactive
  | 0 => a
  | fuel + 1 =>
      match a.prompt with
      | none => a
      | some p =>
          if p.result.isSome then a
          else
            match p.pending with
            | answer :: rest =>
                match a.handOver answer with
                | (a, .stored, _) => followFor { a with prompt := some { p with pending := rest } } fuel
                | (a, .full, _) => a
                | (a, .shut, name) => a.endPrompt p (.error (.slotClosed name))
            | [] =>
                match a.history.states with
                | state :: later =>
                    let p := p.answer state
                    let a := { a with history := { a.history with states := later } }
                    match p.result with
                    | some result => a.endPrompt p result
                    | none => followFor { a with prompt := some p } fuel
                | [] => if a.history.recording then a else a.endPrompt p (.ok ())

/-- Lets the dialogue go on as far as it can. -/
def follow (a : Interactive) : Interactive :=
  let pending := match a.prompt with
    | some p => p.pending.length
    | none => 0
  a.followFor (3 * a.history.states.length + pending + 2)

/-- Takes a value from a slot; a dialogue waiting for room in it goes on. -/
def takeFrom {α : Type} (a : Interactive) (slot : Handoff α)
    (put : Interactive → Handoff α → Interactive) : Interactive × Run α :=
  match slot.take with
  | (slot, .value value) => ((put a slot).follow, .done value)
  | (_, .shut) => (a, .failed (.slotClosed slot.name))
  | (_, .empty) => (a, .stuck)

/-- Takes a value, then sends the operation built from it. -/
def takeThen {α : Type} (a : Interactive) (c : Client) (slot : Handoff α)
    (put : Interactive → Handoff α → Interactive) (operation : α → Operation) :
    Interactive × Client × Run Unit :=
  match a.takeFrom slot put with
  | (a, .done value) =>
      let (c, run) := c.perform (operation value)
      (a, c, run)
  | (a, .failed problem) => (a, c, .failed problem)
  | (a, .stuck) => (a, c, .stuck)

/-- Handles one state. -/
def handle (a : Interactive) (c : Client) (state : AuthState) : Interactive × Client × Run Unit :=
  let a := { a with history := a.history.record state }.follow
  match state with
  | .waitParameters =>
      a.takeThen c a.parameters (fun a slot => { a with parameters := slot }) .setParameters
  | .waitEncryptionKey _ =>
      let (c, run) := c.perform (.checkEncryptionKey "")
      (a, c, run)
  | .waitPhoneNumber =>
      a.takeThen c a.phoneNumber (fun a slot => { a with phoneNumber := slot })
        fun number => .setPhoneNumber number false false
  | .waitCode isRegistered =>
      match a.takeFrom a.code fun a slot => { a with code := slot } with
      | (a, .done code) =>
          if isRegistered then
            let (c, run) := c.perform (.checkCode code "" "")
            (a, c, run)
          else
            a.takeThen c a.names (fun a slot => { a with names := slot })
              fun (first, last) => .checkCode code first last
      | (a, .failed problem) => (a, c, .failed problem)
      | (a, .stuck) => (a, c, .stuck)
  | .waitPassword .. =>
      a.takeThen c a.password (fun a slot => { a with password := slot }) .checkPassword
  | .waitBotToken => (a, c, .failed (.unsupportedState state.typeName))
  | _ => (a, c, .done ())

/-- Closes the slots and ends the history; the dialogue sees the end. -/
def close (a : Interactive) : Interactive :=
  { a with parameters := a.parameters.close, phoneNumber := a.phoneNumber.close,
           code := a.code.close, names := a.names.close, password := a.password.close,
           history := a.history.close }.follow

/-- Supplies a value from the holder's side. -/
def supply (a : Interactive) (answer : Answer) : Interactive × Handoff.Supplied × String :=
  let (a, supplied, name) := a.handOver answer
  (a.follow, supplied, name)

/-- Supplies parameters from the holder's side. -/
def supplyParameters (a : Interactive) (parameters : Parameters) :
    Interactive × Handoff.Supplied × String :=
  let (slot, supplied) := a.parameters.supply parameters
  ({ a with parameters := slot }, supplied, slot.name)

end Interactive

/-- An authorizer of either kind. -/
inductive Authorizer where
  | bot (b : Bot)
  | interactive (a : Interactive)

namespace Authorizer

/-- Handles one state. -/
def handle : Authorizer → Client → AuthState → Authorizer × Client × Run Unit
  | .bot b, c, state =>
      let (b, c, run) := b.handle c state
      (.bot b, c, run)
  | .interactive a, c, state =>
      let (a, c, run) := a.handle c state
      (.interactive a, c, run)

/-- Closes the authorizer. -/
def close : Authorizer → Authorizer
  | .bot b => .bot b.close
  | .interactive a => .interactive a.close

end Authorizer

end Switchboard
