import Mathlib
import Switchboard.Proofs.MessageViews
import Switchboard.Proofs.TreeReading

/-!
# Reading a message as an event, by its tag

The event reader dispatches on a message's `@type` string. Over every value it refuses exactly the
values without a string tag; it keeps a message whose tag has no typed form whole, as an unknown
event; for a tag with a typed form it gives that form or a decoding error, and `ok` never fails;
and an event carries an authorization state exactly when its tag is `updateAuthorizationState` or
starts with `authorizationState` (`reading_events_by_tag`).

An event is named by the tag it was read from, with one exception. The state reader is a tagged
union read from the message itself, so it meets the tag the dispatch met: a union reads its tag
from the one entry under its key, the entry `get?` finds (`Walk.foldlM_tagEntry_found`). A tag
that starts with `authorizationState` but names no state this library knows is read as the unknown
state, and the event is then named `unknown`, not by its tag
(`unknown_state_is_not_named_by_its_tag`).
-/

namespace Switchboard

namespace AuthKind

/-- A tag names itself when it is the tag of a known state, and `unknown` otherwise. -/
theorem tag_ofTag (name : String) :
    (ofTag name).tag = if name ∈ tagged.map tag then name else "unknown" := by
  unfold ofTag
  cases found : tagged.find? (fun kind => kind.tag = name) with
  | some kind =>
    have named : kind.tag = name := by simpa using List.find?_some found
    have mem : name ∈ tagged.map tag := List.mem_map.2 ⟨kind, List.mem_of_find?_eq_some found, named⟩
    simp [named, mem]
  | none =>
    have absent : name ∉ tagged.map tag := by
      intro mem
      obtain ⟨kind, member, named⟩ := List.mem_map.1 mem
      have missed := List.find?_eq_none.1 found kind member
      simp [named] at missed
    simp only [Option.getD_none, absent, if_false]
    rfl

end AuthKind

namespace AuthState

open Walk

/-- Each variant reader gives a state of its own kind. -/
theorem readVariant_kind (kind : AuthKind) :
    Ensures (readVariant kind : Walk AuthState) (·.kind = kind) := by
  cases kind with
  | waitEncryptionKey => exact Ensures.map _ fun _ => rfl
  | waitCode => exact Ensures.map _ fun _ => rfl
  | waitPassword =>
    unfold readVariant readPassword JsonSource.record
    rw [value_eq]
    apply Ensures.valueRequest
    · intro s a refused
      cases refused
    · intro body mem
      cases mem
      exact (Ensures.trivial _).bind fun _ _ => Ensures.pure rfl
    · intro body mem
      cases mem
      exact (Ensures.trivial _).bind fun _ _ => (Ensures.trivial _).bind fun _ _ =>
        (Ensures.trivial _).bind fun _ _ => Ensures.pure rfl
  | waitParameters | waitPhoneNumber | waitBotToken | ready | loggingOut | closing | closed
  | unknown => exact Ensures.pure rfl

/-- A state read from an object is of the kind its `@type` string names. -/
theorem read_kind {entries : List (String × Json)} {state : AuthState}
    (read : Json.decodeTree .parsed (.object entries) (AuthState.read : Walk AuthState) = .ok state) :
    ∃ name, (Json.object entries).get? "@type" = some (.string name) ∧
      state.kind = AuthKind.ofTag name := by
  have gives : Gives (AuthState.read : Walk AuthState) (.object entries) _ :=
    Gives.union unionName "@type" 130
      (Gives.tagged_object (fun x => Gives.variantTag _ x) unionName "@type" 130 entries)
  rw [decodeTree_eq_ok gives] at read
  obtain ⟨⟨kind, rest⟩, tagged, variant⟩ := Option.bind_eq_some_iff.1 read
  obtain ⟨⟨tag?, kept⟩, folded, found⟩ := Option.bind_eq_some_iff.1 tagged
  cases tag? with
  | none => cases found
  | some tag =>
    simp only [Option.map_some, Option.some.injEq, Prod.mk.injEq] at found
    obtain ⟨rfl, rfl⟩ := found
    obtain ⟨x, held, named⟩ := foldlM_tagEntry_found entries [] tag kept folded
    -- the tag is a string, and the kind is the one it names
    cases x with
    | string name =>
      simp only [variantTagOf, Except.toOption, Option.some.injEq] at named
      refine ⟨name, held, ?_⟩
      rw [named]
      -- the variant the kind chooses gives a state of that kind
      dsimp only at variant
      split at variant
      · exact (readVariant_kind tag).toOption variant
      · exact ((Ensures.trivial _).bind fun _ _ => readVariant_kind tag).toOption variant
    | null | bool _ | number _ | array _ | object _ => cases named

end AuthState

namespace Event

theorem readParsed_error {α : Type} {value : Json} {body : Walk α} {problem : WireError}
    (failed : readParsed value body = .error problem) : ∃ p, problem = .json p := by
  unfold readParsed at failed
  split at failed
  · cases failed
  · cases failed
    exact ⟨_, rfl⟩

theorem readParsed_ok {α : Type} {value : Json} {body : Walk α} {a : α}
    (read : readParsed value body = .ok a) : Json.decodeTree .parsed value body = .ok a := by
  unfold readParsed at read
  split at read
  · rename_i result decoded
    cases read
    exact decoded
  · cases read

theorem error_of_map {α : Type} {f : α → Event} {read : Except WireError α} {problem : WireError}
    (mapped : f <$> read = .error problem) : read = .error problem := by
  cases read with
  | error e =>
    simp only [Functor.map, Except.map, Except.error.injEq] at mapped
    rw [mapped]
  | ok a => cases mapped

/-- No typed tag starts like an authorization state. -/
theorem typed_not_state : ∀ tag ∈ typedTags, tag.startsWith "authorizationState" = false := by
  decide +kernel

/-- A tagged message fails only on a tag with a typed form other than `ok`, as a decoding error. -/
theorem ofJson_error {value : Json} {tag : String} (tagged : value.get? "@type" = some (.string tag))
    {problem : WireError} (failed : ofJson value = .error problem) :
    (tag ∈ typedTags ∨ tag.startsWith "authorizationState") ∧ tag ≠ "ok" ∧ ∃ p, problem = .json p := by
  simp only [ofJson, tagged] at failed
  split_ifs at failed with update option connection isOk isError isText state
  all_goals first
    | cases failed
    | exact ⟨by simp_all [typedTags], by simp_all, readParsed_error (error_of_map failed)⟩

/-- The reader refuses exactly the values without a string tag. -/
theorem ofJson_eq_missingType (value : Json) :
    ofJson value = .error .missingType ↔ ∀ tag, value.get? "@type" ≠ some (.string tag) := by
  constructor
  · intro refused tag tagged
    obtain ⟨-, -, p, wrong⟩ := ofJson_error tagged refused
    cases wrong
  · intro untagged
    unfold ofJson
    split
    · rename_i tag tagged
      exact absurd tagged (untagged tag)
    · rfl

/-- A tag with no typed form is read as an authorization state or kept whole. -/
theorem ofJson_untyped {value : Json} {tag : String} (tagged : value.get? "@type" = some (.string tag))
    (untyped : tag ∉ typedTags) :
    ofJson value = if tag.startsWith "authorizationState" then authorization <$> readParsed value AuthState.read
      else .ok (unknown tag value) := by
  simp only [typedTags, List.mem_cons, List.not_mem_nil, or_false, not_or] at untyped
  obtain ⟨update, option, connection, isOk, isError, isText⟩ := untyped
  simp only [ofJson, tagged, update, option, connection, isOk, isError, isText, ↓reduceIte]

theorem ofJson_unknown {value : Json} {tag : String} (tagged : value.get? "@type" = some (.string tag))
    (untyped : tag ∉ typedTags) (plain : tag.startsWith "authorizationState" = false) :
    ofJson value = .ok (unknown tag value) := by
  rw [ofJson_untyped tagged untyped, plain]
  rfl

theorem ofJson_ok {value : Json} (tagged : value.get? "@type" = some (.string "ok")) :
    ofJson value = .ok ok := by
  simp [ofJson, tagged]

/-- A tag of the authorization family gives the state of the kind the tag names. -/
theorem ofJson_authorization {value : Json} {tag : String}
    (tagged : value.get? "@type" = some (.string tag)) (untyped : tag ∉ typedTags)
    (state : tag.startsWith "authorizationState" = true) {event : Event}
    (read : ofJson value = .ok event) :
    ∃ s, event = authorization s ∧ s.kind = AuthKind.ofTag tag := by
  rw [ofJson_untyped tagged untyped, if_pos state] at read
  obtain ⟨s, parsed, rfl⟩ := eq_of_map_ok read
  refine ⟨s, rfl, ?_⟩
  -- a value that holds a tag is an object, which the state reader reads as a union
  cases value with
  | object entries =>
    obtain ⟨name, held, kind⟩ := AuthState.read_kind (readParsed_ok parsed)
    rw [tagged] at held
    cases held
    exact kind
  | null | bool _ | number _ | string _ | array _ => cases tagged

/-- What an event read from a tagged message is: typed when its tag has a typed form, carrying a
state exactly for the authorization tags, and named by its tag unless that tag is an
authorization state this library does not know. -/
theorem ofJson_names {value : Json} {tag : String} (tagged : value.get? "@type" = some (.string tag))
    {event : Event} (read : ofJson value = .ok event) :
    ((tag ∈ typedTags ∨ tag.startsWith "authorizationState") →
        ∀ name payload, event ≠ unknown name payload) ∧
      (event.authState?.isSome ↔
        tag = "updateAuthorizationState" ∨ tag.startsWith "authorizationState") ∧
      event.typeName = if tag.startsWith "authorizationState" ∧ tag ∉ AuthKind.tagged.map AuthKind.tag
        then "unknown" else tag := by
  have plains := typed_not_state
  simp only [typedTags, List.mem_cons, List.not_mem_nil, or_false, forall_eq_or_imp, forall_eq]
    at plains
  obtain ⟨update, option, connection, isOk, isError, isText⟩ := plains
  rcases ofJson_cases tagged read with
    ⟨rfl, _, rfl⟩ | ⟨rfl, _, _, rfl⟩ | ⟨rfl, _, rfl⟩ | ⟨rfl, rfl⟩ | ⟨rfl, _, rfl⟩ | ⟨rfl, _, rfl⟩ |
    ⟨untyped, state, _, rfl⟩ | ⟨untyped, plain, rfl⟩
  -- a typed tag: it is no state's tag, and the event is named by it
  iterate 6
    refine ⟨fun _ _ _ same => (by cases same), ?_, ?_⟩ <;>
      simp [authState?, typeName, update, option, connection, isOk, isError, isText]
  · obtain ⟨s, same, kind⟩ := ofJson_authorization tagged untyped state read
    cases same
    refine ⟨fun _ _ _ same => (by cases same), by simp [authState?, state], ?_⟩
    simp only [typeName, AuthState.typeName, kind, AuthKind.tag_ofTag, state, true_and]
    by_cases known : tag ∈ AuthKind.tagged.map AuthKind.tag <;> simp [known]
  · refine ⟨fun typed => ?_, ?_, by simp [typeName, plain]⟩
    · simp [untyped, plain] at typed
    · simp only [typedTags, List.mem_cons, not_or] at untyped
      simp [authState?, untyped.1, plain]

/-- How a message is read as an event, over every value. The reader refuses exactly the values
without a string `@type`. A tag with no typed form keeps the message whole as an unknown event;
`ok` never fails; any other failure is a decoding error under a tag with a typed form. An event
read from a tag with a typed form is typed, it carries an authorization state exactly when the tag
is `updateAuthorizationState` or starts with `authorizationState`, and it is named by its tag,
except when the tag starts with `authorizationState` and names no state known here: the event is
then the unknown state, named `unknown`. -/
theorem reading_events_by_tag (value : Json) :
    (ofJson value = .error .missingType ↔ ∀ tag, value.get? "@type" ≠ some (.string tag)) ∧
    ∀ tag, value.get? "@type" = some (.string tag) →
      (tag ∉ typedTags → tag.startsWith "authorizationState" = false →
        ofJson value = .ok (unknown tag value)) ∧
      (tag = "ok" → ofJson value = .ok ok) ∧
      (∀ problem, ofJson value = .error problem →
        (tag ∈ typedTags ∨ tag.startsWith "authorizationState") ∧ tag ≠ "ok" ∧
          ∃ p, problem = .json p) ∧
      ∀ event, ofJson value = .ok event →
        ((tag ∈ typedTags ∨ tag.startsWith "authorizationState") →
            ∀ name payload, event ≠ unknown name payload) ∧
          (event.authState?.isSome ↔
            tag = "updateAuthorizationState" ∨ tag.startsWith "authorizationState") ∧
          event.typeName =
            if tag.startsWith "authorizationState" ∧ tag ∉ AuthKind.tagged.map AuthKind.tag
            then "unknown" else tag :=
  ⟨ofJson_eq_missingType value, fun _ tagged =>
    ⟨ofJson_unknown tagged, fun isOk => ofJson_ok (isOk ▸ tagged),
      fun _ failed => ofJson_error tagged failed, fun _ read => ofJson_names tagged read⟩⟩

/-- The reading of a message tagged as a state this library does not know. -/
theorem reading_events_by_tag_of_unknown_state :
    let value := Json.object [("@type", .string "authorizationStateWaitRegistration")]
    let tag := "authorizationStateWaitRegistration"
    value.get? "@type" = some (.string tag) ∧
      (tag ∉ typedTags → tag.startsWith "authorizationState" = false →
        ofJson value = .ok (unknown tag value)) ∧
      (tag = "ok" → ofJson value = .ok ok) ∧
      (∀ problem, ofJson value = .error problem →
        (tag ∈ typedTags ∨ tag.startsWith "authorizationState") ∧ tag ≠ "ok" ∧
          ∃ p, problem = .json p) ∧
      ∀ event, ofJson value = .ok event →
        ((tag ∈ typedTags ∨ tag.startsWith "authorizationState") →
            ∀ name payload, event ≠ unknown name payload) ∧
          (event.authState?.isSome ↔
            tag = "updateAuthorizationState" ∨ tag.startsWith "authorizationState") ∧
          event.typeName =
            if tag.startsWith "authorizationState" ∧ tag ∉ AuthKind.tagged.map AuthKind.tag
            then "unknown" else tag :=
  ⟨rfl, (reading_events_by_tag _).2 "authorizationStateWaitRegistration" rfl⟩

/-- A message tagged as a state this library does not know is read as the unknown state, and the
event is named `unknown`, not by the tag it was read from. -/
theorem unknown_state_is_not_named_by_its_tag :
    (ofBytes "\x7b\"@type\":\"authorizationStateWaitRegistration\"\x7d".toUTF8).map typeName =
      .ok "unknown" := by
  decide +kernel

end Event

end Switchboard
