import Switchboard.Engine.AuthFlow

/-!
# How the scripted engine answers

A responder turns each request the engine reads into the messages it answers with, and may change
as it does. It is silent, acknowledges everything, plays sign-in, or follows a table of rules.

A rule of a table names a request tag, or `*` for every tag that no rule names, and lists rounds
of replies: the first matching request gets the first round, the second the second, and from the
last round on every request gets the last. A rule with no rounds never answers. Each item of a
round is a message body; one marked as a reply takes the request's correlation token.
-/

namespace Switchboard

/-- One message a rule answers with. -/
structure ReplyItem where
  body : Json
  /-- Whether the body takes the request's correlation token. -/
  answers : Bool := true

/-- A rule of a reply table. -/
structure ReplyRule where
  /-- The request tag the rule is for; `*` stands for any tag that no rule names. -/
  typeName : String
  /-- The rounds of replies, one per matching request; the last one repeats. -/
  rounds : List (List ReplyItem)
  /-- How many matching requests the rule has answered. -/
  used : Nat := 0

namespace ReplyRule

/-- The round for the next matching request. -/
def nextRound (rule : ReplyRule) : List ReplyItem :=
  (rule.rounds[min rule.used (rule.rounds.length - 1)]?).getD []

end ReplyRule

/-- How the scripted engine answers requests. -/
inductive Responder where
  | silent
  | acknowledging
  | authFlow (flow : AuthFlow)
  | table (rules : List ReplyRule)

namespace Responder

/-- The index of the rule that answers requests tagged `tag`. -/
def ruleFor (rules : List ReplyRule) (tag : String) : Option Nat :=
  match rules.findIdx? (·.typeName == tag) with
  | some i => some i
  | none => rules.findIdx? (·.typeName == "*")

/-- Answers a request: the messages, in order, and the responder after it. -/
def respond : Responder → Json → Responder × List Json
  | .silent, _ => (.silent, [])
  | .acknowledging, request => (.acknowledging, [Engine.replyTo request Engine.okBody])
  | .authFlow flow, request =>
      let (flow, replies) := flow.respond request
      (.authFlow flow, replies)
  | .table rules, request =>
      match ruleFor rules ((Engine.tagOf request).getD "") with
      | none => (.table rules, [])
      | some i =>
          match rules[i]? with
          | none => (.table rules, [])
          | some rule =>
              let replies := rule.nextRound.map fun item =>
                if item.answers then Engine.replyTo request item.body else item.body.normalize
              (.table (rules.set i { rule with used := rule.used + 1 }), replies)

end Responder

end Switchboard
