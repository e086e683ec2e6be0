import Switchboard.Auth.Handoff
import Switchboard.Text.Blank

/-!
# Signing in at a terminal

The terminal dialogue follows the states an interactive authorizer reports. For a phone number,
a code or a password it writes a question and reads one line, without the white space around it;
a code for a number that is not registered also asks for a first and a last name. It then hands
the answers over: names before the code. A password question shows the hint when there is one.
The dialogue ends when sign-in is ready, when the reported states end, or when the input ends in
the middle of a question.
-/

namespace Switchboard

/-- An answer the dialogue hands to the authorizer. -/
inductive Answer where
  | phoneNumber (value : String)
  | code (value : String)
  | names (first last : String)
  | password (value : String)
  deriving DecidableEq, Repr

/-- The state of a terminal dialogue. -/
structure Prompt where
  /-- The input lines not yet read. -/
  lines : List String
  /-- Everything written so far. -/
  output : String := ""
  /-- Answers not yet handed over, in order; the first may wait for room. -/
  pending : List Answer := []
  /-- How the dialogue ended, once it has. -/
  result : Option (Except AuthError Unit) := none

namespace Prompt

/-- The lines of an input text; a last line needs no line end, and a carriage return before a
line end belongs to the line end. -/
def linesOf (text : String) : List String :=
  let pieces := text.splitOn "\n"
  let pieces := if pieces.getLast? == some "" then pieces.dropLast else pieces
  pieces.map fun line => if line.endsWith "\r" then line.dropEnd 1 |>.toString else line

/-- A dialogue over an input text. -/
def ofText (text : String) : Prompt := { lines := linesOf text }

/-- Ends the dialogue. -/
def finish (p : Prompt) (result : Except AuthError Unit) : Prompt := { p with result := some result }

/-- Writes a question and reads the answer; running out of input ends the dialogue. -/
def ask (p : Prompt) (question : String) : Prompt × Option String :=
  let p := { p with output := p.output ++ question }
  match p.lines with
  | line :: rest => ({ p with lines := rest }, some (Text.trim line))
  | [] => (p.finish (.error (.io "input closed")), none)

/-- The question for a password, with the hint when there is one. -/
def passwordQuestion (hint : String) : String :=
  if hint.isEmpty then "Enter password: " else "Enter password (hint: " ++ hint ++ "): "

/-- Answers one reported state. -/
def answer (p : Prompt) (state : AuthState) : Prompt :=
  match state with
  | .waitPhoneNumber =>
      match p.ask "Enter phone number: " with
      | (p, some number) => { p with pending := p.pending ++ [.phoneNumber number] }
      | (p, none) => p
  | .waitCode isRegistered =>
      match p.ask "Enter code: " with
      | (p, some code) =>
          if isRegistered then { p with pending := p.pending ++ [.code code] }
          else
            let p := { p with output := p.output ++ "Phone number is not registered.\n" }
            match p.ask "Enter first name: " with
            | (p, some first) =>
                match p.ask "Enter last name: " with
                | (p, some last) => { p with pending := p.pending ++ [.names first last, .code code] }
                | (p, none) => p
            | (p, none) => p
      | (p, none) => p
  | .waitPassword hint _ _ =>
      match p.ask (passwordQuestion hint) with
      | (p, some password) => { p with pending := p.pending ++ [.password password] }
      | (p, none) => p
  | .ready => p.finish (.ok ())
  | _ => p

end Prompt

end Switchboard
