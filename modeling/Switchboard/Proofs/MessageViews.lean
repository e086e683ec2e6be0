import Mathlib
import Switchboard.Wire.Event

/-!
# The two readings of a received message

The dispatcher reads every message twice. The tag reader (`Envelope.ofBytes`) reads the message
as a record with the fields `@type` and `@extra` and passes over the others, and a caller's reply
goes by what it finds. The event reader (`Event.ofBytes`) parses the whole text into a value and
dispatches on its `@type`, and the listeners get what it finds.

They agree on the tag dispatch: a reply kind accepts a tag exactly when the event reader reads a
message with that tag as that kind's event (`accepts_eq_carries`). They do not agree on which
texts carry a tag, because a record and a parsed value are read by different rules:

* a record's fields may not repeat, while a parsed object keeps the last of a repeated key, so
  the tag reader refuses `{"@type":"ok","@type":"ok"}`, which the event reader reads as `ok`;
* a record may also be written as the sequence of its fields, so the tag reader reads `["ok"]`
  as an `ok` message without a token, which the event reader finds untagged.
-/

namespace Switchboard

namespace ReplyKind

/-- Whether the event reader's event is a reply of this kind. -/
def carries : ReplyKind → Event → Bool
  | ok, .ok => true
  | text, .text _ => true
  | authState, .authorization _ => true
  | _, _ => false

end ReplyKind

namespace Event

theorem eq_of_map_ok {α : Type} {f : α → Event} {read : Except WireError α} {event : Event}
    (mapped : f <$> read = .ok event) : ∃ value, read = .ok value ∧ event = f value := by
  cases read with
  | error problem => cases mapped
  | ok value => exact ⟨value, rfl, (Except.ok.inj mapped).symm⟩

/-- The tags the event reader gives a typed form other than an authorization state. -/
def typedTags : List String :=
  ["updateAuthorizationState", "updateOption", "updateConnectionState", "ok", "error", "text"]

/-- What the event reader makes of a message tagged `tag`: the event of the tag's kind, or the
whole message when the tag has no typed form. -/
theorem ofJson_cases {value : Json} {tag : String} (tagged : value.get? "@type" = some (.string tag))
    {event : Event} (read : ofJson value = .ok event) :
    (tag = "updateAuthorizationState" ∧ ∃ state, event = authorizationUpdate state) ∨
    (tag = "updateOption" ∧ ∃ name option, event = optionUpdate name option) ∨
    (tag = "updateConnectionState" ∧ ∃ state, event = connectionUpdate state) ∨
    (tag = "ok" ∧ event = ok) ∨
    (tag = "error" ∧ ∃ reply, event = error reply) ∨
    (tag = "text" ∧ ∃ body, event = text body) ∨
    (tag ∉ typedTags ∧ tag.startsWith "authorizationState" ∧ ∃ state, event = authorization state) ∨
    (tag ∉ typedTags ∧ tag.startsWith "authorizationState" = false ∧ event = unknown tag value) := by
  simp only [ofJson, tagged] at read
  by_cases update : tag = "updateAuthorizationState"
  · simp only [update, ↓reduceIte] at read
    obtain ⟨state, -, rfl⟩ := eq_of_map_ok read
    exact .inl ⟨update, state, rfl⟩
  by_cases option : tag = "updateOption"
  · simp only [option, ↓reduceIte, String.reduceEq] at read
    obtain ⟨⟨name, value⟩, -, rfl⟩ := eq_of_map_ok read
    exact .inr (.inl ⟨option, name, value, rfl⟩)
  by_cases connection : tag = "updateConnectionState"
  · simp only [connection, ↓reduceIte, String.reduceEq] at read
    obtain ⟨state, -, rfl⟩ := eq_of_map_ok read
    exact .inr (.inr (.inl ⟨connection, state, rfl⟩))
  by_cases isOk : tag = "ok"
  · simp only [isOk, ↓reduceIte, String.reduceEq, Except.ok.injEq] at read
    exact .inr (.inr (.inr (.inl ⟨isOk, read.symm⟩)))
  by_cases isError : tag = "error"
  · simp only [isError, ↓reduceIte, String.reduceEq] at read
    obtain ⟨reply, -, rfl⟩ := eq_of_map_ok read
    exact .inr (.inr (.inr (.inr (.inl ⟨isError, reply, rfl⟩))))
  by_cases isText : tag = "text"
  · simp only [isText, ↓reduceIte, String.reduceEq] at read
    obtain ⟨body, -, rfl⟩ := eq_of_map_ok read
    exact .inr (.inr (.inr (.inr (.inr (.inl ⟨isText, body, rfl⟩)))))
  have untyped : tag ∉ typedTags := by
    simp [typedTags, update, option, connection, isOk, isError, isText]
  simp only [update, option, connection, isOk, isError, isText, ↓reduceIte] at read
  by_cases state : tag.startsWith "authorizationState" = true
  · simp only [state, ↓reduceIte] at read
    obtain ⟨s, -, rfl⟩ := eq_of_map_ok read
    exact .inr (.inr (.inr (.inr (.inr (.inr (.inl ⟨untyped, state, s, rfl⟩))))))
  · simp only [state, Bool.false_eq_true, ↓reduceIte, Except.ok.injEq] at read
    exact .inr (.inr (.inr (.inr (.inr (.inr (.inr ⟨untyped, by simpa using state, read.symm⟩))))))

end Event

namespace ReplyKind

/-- A reply kind accepts a message's tag exactly when the event reader reads the message as that
kind's event. -/
theorem accepts_eq_carries (kind : ReplyKind) {value : Json} {tag : String}
    (tagged : value.get? "@type" = some (.string tag)) {event : Event}
    (read : Event.ofJson value = .ok event) : kind.accepts tag = kind.carries event := by
  rcases Event.ofJson_cases tagged read with
    ⟨rfl, _, rfl⟩ | ⟨rfl, _, _, rfl⟩ | ⟨rfl, _, rfl⟩ | ⟨rfl, rfl⟩ | ⟨rfl, _, rfl⟩ | ⟨rfl, _, rfl⟩ |
    ⟨untyped, state, _, rfl⟩ | ⟨untyped, state, rfl⟩
  -- a typed tag: once the event's constructor is read off, only the tag is left to compute
  iterate 6 (cases kind <;> simp only [carries] <;> decide +kernel)
  -- an untyped tag is neither `ok` nor `text`, so only its prefix decides
  all_goals
    simp only [Event.typedTags, List.mem_cons, List.not_mem_nil, or_false, not_or] at untyped
    cases kind
    case ok | text => simp [accepts, carries, ReplyKind.tag, untyped]
    case authState => simp only [accepts, carries, ReplyKind.tag]; exact state

theorem accepts_eq_carries_of_ok_reply :
    (Json.object [("@type", .string "ok")]).get? "@type" = some (.string "ok") ∧
      Event.ofJson (.object [("@type", .string "ok")]) = .ok .ok ∧
      ok.accepts "ok" = ok.carries .ok := by
  have tagged : (Json.object [("@type", .string "ok")]).get? "@type" = some (.string "ok") := rfl
  have read : Event.ofJson (.object [("@type", .string "ok")]) = .ok .ok := by
    simp [Event.ofJson, tagged]
  exact ⟨tagged, read, accepts_eq_carries ok tagged read⟩

/-- A repeated `@type` is where the readings part: the tag reader refuses the message as a record
with a repeated field, while the event reader keeps the last key and reads an `ok` reply. -/
theorem tag_reader_refuses_a_repeated_tag :
    (Envelope.ofBytes "\x7b\"@type\":\"ok\",\"@type\":\"ok\"\x7d".toUTF8).map (·.typeName) =
        .error (.json { text := "duplicate field `@type`", line := 1, column := 21 }) ∧
      (Event.ofBytes "\x7b\"@type\":\"ok\",\"@type\":\"ok\"\x7d".toUTF8).map ok.carries = .ok true := by
  decide +kernel

end ReplyKind

end Switchboard
