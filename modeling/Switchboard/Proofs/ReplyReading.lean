import Switchboard.Proofs.Dispatch
import Switchboard.Proofs.RequestTexts
import Switchboard.Proofs.SignInScript
import Switchboard.Proofs.TreeReading

/-!
# Reading the scripted engine's messages

The scripted engine writes every message in normal form: keys sorted, each value in normal form.
Normal forms are fixed points of normalizing (`Json.normalize_normalize`), so what the engine
writes, a caller reads back as written.

Two kinds of message reach the dispatcher while sign-in runs. A state update has the form of a
request without a token, so it carries no token and is no caller's reply
(`Engine.replyOf?_stateUpdate`). A reply to a request under a token puts the token first and the
body's tag second (`Engine.normalize_replyTo`); the dispatcher reads it as a reply under that token
(`Engine.replyOf?_replyTo`), and a caller decodes an acknowledgement as such and a state as that
state, for every state but the unknown one (`Engine.decodeReply_okBody`,
`Engine.decodeReply_stateBody`).

Reading a state back is reading a tagged union from text: the tag is read from its entry and
every other entry is kept as written for the variant the tag chooses (`Scan.tagged_reads`), which
then reads the state's fields from that rest (`Walk.Gives.variant_reply`).
-/

namespace Switchboard

namespace Json

/-- An entry whose key sorts after every key of a list goes at its end. -/
theorem insertEntry_of_lt {key : String} {value : Json} :
    ∀ {entries : List (String × Json)}, (∀ e ∈ entries, e.1 < key) →
      insertEntry key value entries = entries ++ [(key, value)]
  | [], _ => rfl
  | (k, v) :: rest, below => by
    have first : k < key := below (k, v) List.mem_cons_self
    rw [insertEntry, if_neg (not_lt_of_gt first), if_neg (ne_of_gt first),
      insertEntry_of_lt fun e mem => below e (List.mem_cons_of_mem _ mem)]
    rfl

/-- Sorted entries whose values are in normal form are appended as they are to entries whose keys
all sort before theirs. -/
theorem normalizeEntries_of_sorted : ∀ {entries acc : List (String × Json)}, Sorted entries →
    (∀ e ∈ entries, normalize e.2 = e.2) → (∀ a ∈ acc, ∀ e ∈ entries, a.1 < e.1) →
    normalizeEntries acc entries = acc ++ entries
  | [], acc, _, _, _ => by rw [normalizeEntries, List.append_nil]
  | (key, value) :: rest, acc, sorted, normal, below => by
    obtain ⟨first, later⟩ := List.pairwise_cons.1 (sorted_iff_pairwise.1 sorted)
    have grown : ∀ a ∈ acc ++ [(key, value)], ∀ e ∈ rest, a.1 < e.1 := by
      intro a mem e member
      rcases List.mem_append.1 mem with old | new
      · exact below a old e (List.mem_cons_of_mem _ member)
      · rw [List.mem_singleton.1 new]
        exact first e member
    rw [normalizeEntries, normal (key, value) List.mem_cons_self,
      insertEntry_of_lt fun a mem => below a mem (key, value) List.mem_cons_self,
      normalizeEntries_of_sorted (sorted_iff_pairwise.2 later)
        (fun e mem => normal e (List.mem_cons_of_mem _ mem)) grown]
    simp

/-- An object whose keys are sorted and whose values are in normal form is in normal form. -/
theorem normalize_of_sorted {entries : List (String × Json)} (sorted : Sorted entries)
    (normal : ∀ e ∈ entries, normalize e.2 = e.2) : normalize (.object entries) = .object entries := by
  rw [normalize_object, normalizeEntries_of_sorted sorted normal (by simp), List.nil_append]

theorem normalize_normalize_of_depth : ∀ (n : Nat) (j : Json), j.depth < n →
    normalize (normalize j) = normalize j := by
  intro n
  induction n with
  | zero => intro j shallow; omega
  | succ n ih =>
    intro j shallow
    cases j with
    | array items =>
      rw [normalize, normalizeItems_eq_map, normalize, normalizeItems_eq_map, List.map_map]
      congr 1
      apply List.map_congr_left
      intro item mem
      exact ih item (by have := Scan.depth_le_itemsDepth mem; rw [depth] at shallow; omega)
    | object entries =>
      -- the normal form's entries are sorted, and each value is the normal form of one below
      rw [normalize_object, normalize_of_sorted (sorted_normalizeEntries entries (show Sorted [] from trivial))]
      intro e mem
      rcases mem_normalizeEntries mem with mem | ⟨v, inside, same⟩
      · cases mem
      · rw [same]
        have below : v.depth ≤ entriesDepth entries := Scan.depth_le_entriesDepth inside
        exact ih v (by rw [depth] at shallow; omega)
    | null | bool _ | number _ | string _ => rfl

/-- Normalizing twice is normalizing once. -/
theorem normalize_normalize (j : Json) : normalize (normalize j) = normalize j :=
  normalize_normalize_of_depth _ j (Nat.lt_succ_self _)

/-- Each value of an object in normal form is in normal form. -/
theorem normalize_of_mem_normalizeEntries {entries : List (String × Json)} {e : String × Json}
    (mem : e ∈ normalizeEntries [] entries) : normalize e.2 = e.2 := by
  rcases mem_normalizeEntries mem with mem | ⟨v, -, same⟩
  · cases mem
  · rw [same, normalize_normalize]

/-- The boolean a value is, if it is one. -/
def asBool? : Json → Option Bool
  | .bool value => some value
  | _ => none

end Json

namespace AuthKind

/-- Every kind but the unknown one is the kind its tag names. -/
theorem ofTag_tag {kind : AuthKind} (known : kind ≠ .unknown) : ofTag kind.tag = kind := by
  cases kind with
  | unknown => exact absurd rfl known
  | _ => decide

end AuthKind

namespace AuthState

/-- The entries of a state's normal form after its tag. -/
def fields : AuthState → List (String × Json)
  | waitEncryptionKey isEncrypted => [("is_encrypted", .bool isEncrypted)]
  | waitCode isRegistered => [("is_registered", .bool isRegistered)]
  | waitPassword hint hasEmail pattern =>
      [("has_recovery_email_address", .bool hasEmail), ("password_hint", .string hint),
        ("recovery_email_address_pattern", .string pattern)]
  | _ => []

/-- A known state is written as its tag and then its fields, in key order. -/
theorem normalize_toJson {state : AuthState} (known : state ≠ .unknown) :
    state.toJson.normalize = .object (("@type", .string state.typeName) :: state.fields) := by
  cases state with
  | unknown => exact absurd rfl known
  | _ => rfl

/-- A known state's tag is an authorization state's. -/
theorem typeName_startsWith {state : AuthState} (known : state ≠ .unknown) :
    state.typeName.startsWith "authorizationState" = true := by
  cases state with
  | unknown => exact absurd rfl known
  | _ => simp only [typeName, kind, AuthKind.tag]; decide +kernel

/-- A known state's tag is not an error's. -/
theorem typeName_ne_error {state : AuthState} (known : state ≠ .unknown) :
    state.typeName ≠ "error" := by
  intro same
  have starts := typeName_startsWith known
  rw [same] at starts
  exact absurd starts (by decide +kernel)

/-- Each field of a state is a scalar whose key sorts after the tag's. -/
theorem of_mem_fields {state : AuthState} {e : String × Json} (mem : e ∈ state.fields) :
    "@type" < e.1 ∧ e.2.integral = true ∧ e.2.depth = 0 := by
  cases state <;> simp only [fields, List.mem_cons, List.not_mem_nil, or_false] at mem <;>
    rcases mem with rfl | rfl | rfl <;> dsimp only <;> exact ⟨by decide, rfl, rfl⟩

theorem kind_ne_unknown {state : AuthState} (known : state ≠ .unknown) : state.kind ≠ .unknown := by
  cases state with
  | unknown => exact absurd rfl known
  | _ => nofun

end AuthState

namespace Scan

open Json

section Fold

variable {σ : Type} {step : σ → String → Scan σ} {F : σ → String × Json → σ} {d : Nat}

/-- Entries each read by their step from wherever the fold stands. -/
theorem StepsThrough.of_forall {init : σ} {entries : List (String × Json)}
    (each : ∀ acc, ∀ e ∈ entries, Reads (step acc e.1) (0x3A :: octets (compact e.2)) d (F acc e)) :
    StepsThrough step F init d entries := by
  intro pre e post split
  exact each _ e (by rw [split]; simp)

end Fold

section Tagged

variable {τ : Type}

/-- A tagged union's fold over entries whose tag is `tag`: the tag's entry sets it, every other
entry is kept, the latest first. -/
def keepEntry (tagKey : String) (tag : τ) (acc : Option τ × List (String × Json))
    (e : String × Json) : Option τ × List (String × Json) :=
  if e.1 = tagKey then (some tag, acc.2) else (acc.1, e :: acc.2)

theorem foldl_keepEntry_kept {tagKey : String} {tag : τ} :
    ∀ {entries : List (String × Json)}, (∀ e ∈ entries, e.1 ≠ tagKey) →
      ∀ acc, entries.foldl (keepEntry tagKey tag) acc = (acc.1, entries.reverse ++ acc.2)
  | [], _, acc => rfl
  | e :: rest, kept, acc => by
    rw [List.foldl_cons, keepEntry, if_neg (kept e List.mem_cons_self),
      foldl_keepEntry_kept (fun e' mem => kept e' (List.mem_cons_of_mem _ mem))]
    simp

/-- A tagged union written as a map with its tag among the entries: the tag is read from its
entry, and every other entry is kept as written, in order, for the variant. -/
theorem tagged_reads {union tagKey : String} {readTag : Scan τ} {fuel d : Nat} {v : Json} {tag : τ}
    {front back : List (String × Json)} (readsTag : Reads readTag (octets (compact v)) d tag)
    (kept : ∀ e ∈ front ++ back, e.1 ≠ tagKey ∧ e.2.integral ∧ e.2.depth < fuel ∧ e.2.depth ≤ d) :
    Reads (JsonSource.tagged union tagKey readTag fuel)
      (octets (compact (.object (front ++ (tagKey, v) :: back)))) (d + 1)
      (tag, .object (front ++ back)) := by
  have keptFront : ∀ e ∈ front, e.1 ≠ tagKey := fun e mem => (kept e (by simp [mem])).1
  have keptBack : ∀ e ∈ back, e.1 ≠ tagKey := fun e mem => (kept e (by simp [mem])).1
  simp only [JsonSource.tagged, value_eq]
  apply valueRequest_object
  refine ReadsContents.bind_of_pure (foldEntries_reads (F := keepEntry tagKey tag)
    (StepsThrough.append (StepsThrough.of_forall ?front)
      (StepsThrough.cons ?tag (StepsThrough.of_forall ?back)))) ?done
  case front | back =>
    -- an entry that is not the tag is copied as written, whatever was read before it
    intro acc e mem
    obtain ⟨key, integral, shallow, below⟩ := kept e (by simp [mem])
    obtain ⟨tag?, entries⟩ := acc
    simp only [keepEntry, key, if_false]
    exact ((rawJson_reads fuel e.2 integral shallow).mono below).entry.bind_pure
      fun item => (tag?, (e.1, item) :: entries)
  case tag =>
    rw [foldl_keepEntry_kept keptFront]
    simp [keepEntry]
    exact readsTag.entry.bind_pure fun t => (some t, front.reverse)
  case done =>
    rw [List.foldl_append, foldl_keepEntry_kept keptFront, List.foldl_cons,
      foldl_keepEntry_kept keptBack]
    simp [keepEntry]

/-- A tagged union whose tag and rest are read, and whose chosen variant reads that rest. -/
theorem union_reads {α : Type} {union tagKey : String} {readTag : Scan τ} {variant : τ → Walk α}
    {fuel d : Nat} {T : List UInt8} {tag : τ} {rest : Json} {a : α}
    (tagged : Reads (JsonSource.tagged union tagKey readTag fuel) T d (tag, rest))
    (chosen : Json.decodeTree .buffered rest (variant tag) = .ok a) :
    Reads (JsonSource.union union tagKey readTag variant fuel) T d a :=
  tagged.bind_of_pure (by dsimp only; rw [chosen])

end Tagged

/-- The acknowledgement reader reads every map, whatever its entries. -/
theorem readOk_reads (entries : List (String × Json)) :
    Reads (readOk : Scan Unit) (octets (compact (.object entries))) 1 () := by
  unfold readOk JsonSource.record
  simp only [value_eq, entry_eq, skip_eq]
  apply valueRequest_object (d := 0)
  apply foldEntries_reads (F := fun _ _ => ())
  apply StepsThrough.of_fixed
  intro e _
  exact ⟨rfl, (skipValue_reads e.2 0).entry⟩

end Scan

namespace Walk

theorem Gives.string (v : Json) : Gives (JsonSource.string : Walk String) v v.asString? := by
  cases v <;> exact Gives.scalar _

theorem Gives.bool (v : Json) : Gives (JsonSource.bool : Walk Bool) v v.asBool? := by
  unfold JsonSource.bool
  cases v <;> exact Gives.scalar _

/-- A variant without fields accepts every map. -/
theorem Gives.unitVariant_object (union variant : String) (entries : List (String × Json)) :
    Gives (unitVariant union variant) (.object entries) (some ()) := by
  have passed : entries.foldlM (fun _ _ => some ()) () = some () := by
    induction entries with
    | nil => rfl
    | cons e rest ih => exact ih
  unfold unitVariant
  rw [value_eq]
  apply Gives.valueRequest_object
  rw [← passed]
  exact foldEntries_drains fun _ e _ => Gives.skip e.2

/-- The outcome of the password state's step over one entry: each of its three fields read once,
any other entry passed over. -/
def passwordEntry : Option String × Option Bool × Option String → String × Json →
    Option (Option String × Option Bool × Option String)
  | (hint, hasEmail, pattern), (key, value) =>
    if key = "password_hint" then
      (if hint.isSome then none else value.asString?.map some).bind
        fun hint => some (hint, hasEmail, pattern)
    else if key = "has_recovery_email_address" then
      (if hasEmail.isSome then none else value.asBool?.map some).bind
        fun hasEmail => some (hint, hasEmail, pattern)
    else if key = "recovery_email_address_pattern" then
      (if pattern.isSome then none else value.asString?.map some).bind
        fun pattern => some (hint, hasEmail, pattern)
    else some (hint, hasEmail, pattern)

/-- The password state read from a map: its entries are folded for the three fields, each of which
takes its default when it is missing. -/
theorem Gives.readPassword_object (entries : List (String × Json)) :
    Gives (AuthState.readPassword : Walk AuthState) (.object entries)
      ((entries.foldlM passwordEntry (none, none, none)).bind fun (hint, hasEmail, pattern) =>
        some (.waitPassword (hint.getD "") (hasEmail.getD false) (pattern.getD ""))) := by
  unfold AuthState.readPassword JsonSource.record
  rw [value_eq]
  apply Gives.valueRequest_object
  apply Drains.bind _ fun ⟨hint, hasEmail, pattern⟩ => Runs.pure _
  apply foldEntries_drains
  intro ⟨hint, hasEmail, pattern⟩ ⟨key, value⟩ _
  dsimp only
  rw [passwordEntry]
  by_cases isHint : key = "password_hint"
  · rw [if_pos isHint, if_pos isHint]
    exact (Gives.fieldOnce (Gives.string value) hint key).bind
      fun found _ => Runs.pure (found, hasEmail, pattern)
  rw [if_neg isHint, if_neg isHint]
  by_cases isEmail : key = "has_recovery_email_address"
  · rw [if_pos isEmail, if_pos isEmail]
    exact (Gives.fieldOnce (Gives.bool value) hasEmail key).bind
      fun found _ => Runs.pure (hint, found, pattern)
  rw [if_neg isEmail, if_neg isEmail]
  by_cases isPattern : key = "recovery_email_address_pattern"
  · rw [if_pos isPattern, if_pos isPattern]
    exact (Gives.fieldOnce (Gives.string value) pattern key).bind
      fun found _ => Runs.pure (hint, hasEmail, found)
  rw [if_neg isPattern, if_neg isPattern]
  exact (Gives.skip value).bind fun _ _ => Runs.pure (hint, hasEmail, pattern)

/-- The variant a known state's tag chooses reads the state back from the rest of the state as a
reply has it: the token, then the state's fields. -/
theorem Gives.variant_reply {state : AuthState} (known : state ≠ .unknown) (token : Json) :
    Gives (if AuthState.hasFields state.kind then AuthState.readVariant state.kind
      else do unitVariant AuthState.unionName state.kind.variantName; AuthState.readVariant state.kind)
      (.object (("@extra", token) :: state.fields)) (some state) := by
  cases state with
  | waitEncryptionKey isEncrypted =>
    exact (Gives.single_object Gives.bool _ "is_encrypted" (some false) _).map
      AuthState.waitEncryptionKey
  | waitCode isRegistered =>
    exact (Gives.single_object Gives.bool _ "is_registered" (some false) _).map AuthState.waitCode
  | waitPassword hint hasEmail pattern => exact Gives.readPassword_object _
  | unknown => exact absurd rfl known
  | _ => exact (Gives.unitVariant_object _ _ _).bind fun _ _ => Runs.pure _

end Walk

namespace AuthState

open Scan Walk Json

/-- A known state in a reply, after the reply's token, reads back as that state. -/
theorem read_reply {state : AuthState} (known : state ≠ .unknown) (token : String) :
    Reads (read : Scan AuthState)
      (octets (compact (.object (("@extra", .string token) :: ("@type", .string state.typeName) ::
        state.fields)))) 1 state := by
  have named : AuthKind.ofTag state.typeName = state.kind := AuthKind.ofTag_tag (kind_ne_unknown known)
  have tag : Reads (JsonSource.variantTag fun name => .ok (AuthKind.ofTag name) : Scan AuthKind)
      (octets (compact (.string state.typeName))) 0 state.kind :=
    scalarRequest_scalar (.string state.typeName) rfl (congrArg Except.ok named)
  have kept : ∀ e ∈ [("@extra", Json.string token)] ++ state.fields,
      e.1 ≠ "@type" ∧ e.2.integral ∧ e.2.depth < 130 ∧ e.2.depth ≤ 0 := by
    intro e mem
    rcases List.mem_append.1 mem with extra | field
    · rw [List.mem_singleton.1 extra]
      exact ⟨(by decide : ("@extra" : String) ≠ "@type"), rfl, Nat.zero_lt_succ _, Nat.le_refl 0⟩
    · obtain ⟨later, integral, flat⟩ := of_mem_fields field
      exact ⟨ne_of_gt later, integral, by omega, by omega⟩
  have tagged : Reads (JsonSource.tagged unionName "@type" _ 130)
      (octets (compact (.object ([("@extra", Json.string token)] ++
        ("@type", Json.string state.typeName) :: state.fields))))
      1 (state.kind, .object ([("@extra", Json.string token)] ++ state.fields)) :=
    tagged_reads tag kept
  exact union_reads tagged ((decodeTree_eq_ok (Gives.variant_reply known _) .buffered).2 rfl)

end AuthState

namespace Envelope

open Scan Json

/-- A reply's tags, its token first and its tag second, are read back from its text. -/
theorem readTags_reply (token tag : String) {rest : List (String × Json)}
    (untagged : ∀ e ∈ rest, Request.isTagKey e.1 = false) :
    Reads (readTags : Scan (String × Option Json))
      (octets (compact (.object (("@extra", .string token) :: ("@type", .string tag) :: rest)))) 1
      (tag, some (.string token)) := by
  have apart : ¬("@extra" : String) = "@type" := by decide
  unfold readTags JsonSource.record
  simp only [value_eq]
  apply valueRequest_object (d := 0)
  refine ReadsContents.bind_of_pure (foldEntries_reads (F := tagOf) ?steps) ?done
  case steps =>
    apply StepsThrough.cons
    · -- the token, read as any value
      simp only [tagOf, apart, ↓reduceIte, fieldOnce_none]
      have read : Reads (JsonSource.optionalJson 130 : Scan (Option Json))
          (octets (compact (.string token))) 0 (some (.string token)) :=
        ((rawJson_reads 130 (.string token) rfl (Nat.zero_lt_succ _)).map normalize).bind_of_pure rfl
      exact (read.entry.map some).bind_pure fun v => (none, v)
    apply StepsThrough.cons
    · simp only [tagOf, apart, ↓reduceIte, fieldOnce_none, asString?]
      have accepts : JsonSource.acceptString "a string" (.string tag) = .ok tag := rfl
      exact ((scalarRequest_scalar (.string tag) rfl accepts).entry.map some).bind_pure
        fun v => (v, some (some (Json.string token)))
    · -- every field is passed over and leaves the tags as they are
      apply StepsThrough.of_fixed
      intro e mem
      have plain := untagged e mem
      refine ⟨tagOf_field plain _, ?_⟩
      simp only [Request.isTagKey, Bool.or_eq_false_iff, beq_eq_false_iff_ne] at plain
      simp only [plain.1, plain.2, ↓reduceIte]
      exact (skipValue_reads e.2 0).entry.bind_pure fun _ => _
  case done =>
    rw [List.foldl_cons, List.foldl_cons, foldl_tagOf_fields untagged]
    simp [tagOf, asString?, apart, JsonSource.required]

/-- A message that opens with a non-empty token and then its tag is a reply under that token. -/
theorem replyOf?_reply {token tag : String} {rest : List (String × Json)}
    (untagged : ∀ e ∈ rest, Request.isTagKey e.1 = false) (named : token ≠ "") :
    replyOf? (compact (.object (("@extra", .string token) :: ("@type", .string tag) :: rest))) =
      some { typeName := tag, extra := token,
             data := (compact (.object (("@extra", .string token) :: ("@type", .string tag) ::
               rest))).toUTF8 } := by
  unfold replyOf? ofBytes
  rw [decodeText_compact (readTags_reply token tag untagged) (by decide)]
  simp [isReply, named]

/-- An acknowledgement is decoded as one, whatever entries its text has. -/
theorem decodeReply_ok_object (extra : String) (entries : List (String × Json)) :
    ({ typeName := "ok", extra, data := (compact (.object entries)).toUTF8 } : Envelope).decodeReply
      .ok = .ok .ok := by
  have decoded : decodeText (compact (.object entries)).toUTF8 (ReplyKind.read .ok : Scan ReplyValue) =
      .ok .ok :=
    decodeText_compact ((readOk_reads entries).bind_of_pure rfl) (by decide)
  simp only [decodeReply, decode, ReplyKind.accepts, ReplyKind.tag, beq_self_eq_true, if_true, decoded]

/-- A known state after a token is decoded as that state. -/
theorem decodeReply_state_object {state : AuthState} (known : state ≠ .unknown) (token : String) :
    ({ typeName := state.typeName, extra := token,
       data := (compact (.object (("@extra", .string token) :: ("@type", .string state.typeName) ::
         state.fields))).toUTF8 } : Envelope).decodeReply .authState = .ok (.authState state) := by
  have decoded : decodeText (compact (.object (("@extra", .string token) ::
      ("@type", .string state.typeName) :: state.fields))).toUTF8
      (ReplyKind.read .authState : Scan ReplyValue) = .ok (.authState state) :=
    decodeText_compact ((AuthState.read_reply known token).map ReplyValue.authState) (by decide)
  have accepted : ReplyKind.authState.accepts state.typeName = true :=
    AuthState.typeName_startsWith known
  simp only [decodeReply, accepted, if_true, decode, decoded]

end Envelope

namespace Engine

/-- A state update is written as a request would be: the update's tag, no token, and the state. -/
theorem encode_stateUpdate (state : AuthState) :
    encode (stateUpdate state) =
      ({ typeName := "updateAuthorizationState",
         data := [("authorization_state", state.toJson.normalize)] } : Request).toText := by
  have later : ¬("authorization_state" : String) < "@type" := by decide
  have apart : ("authorization_state" : String) ≠ "@type" := by decide
  simp [encode, stateUpdate, Json.normalize, Json.normalizeEntries, Json.insertEntry, later, apart,
    Request.toText, Request.toJson]

/-- A state update carries no token, so it is no caller's reply. -/
theorem replyOf?_stateUpdate (state : AuthState) : Envelope.replyOf? (encode (stateUpdate state)) = none := by
  have wf : Request.Wf ({ typeName := "updateAuthorizationState",
                          data := [("authorization_state", state.toJson.normalize)] } : Request) :=
    ⟨trivial, by simp only [List.mem_singleton, forall_eq]; decide⟩
  rw [encode_stateUpdate, Envelope.replyOf?, Envelope.ofBytes_request wf]
  rfl

/-- The keys after a body's tag sort after it, so none of them is a tag key. -/
theorem untagged_of_later {rest : List (String × Json)} (later : ∀ e ∈ rest, "@type" < e.1) :
    ∀ e ∈ rest, Request.isTagKey e.1 = false := by
  have first : ("@extra" : String) < "@type" := by decide
  intro e mem
  simp only [Request.isTagKey, Bool.or_eq_false_iff, beq_eq_false_iff_ne]
  exact ⟨ne_of_gt (later e mem), ne_of_gt (lt_trans first (later e mem))⟩

/-- A reply to a request under `token` is in normal form with the token first, the body's tag
second and the body's other entries after, as the body's normal form has them. -/
theorem normalize_replyTo {body : Json} {tag : String} {rest : List (String × Json)}
    (normal : body.normalize = .object (("@type", .string tag) :: rest)) {request : Json}
    {token : String} (extra : request.get? "@extra" = some (.string token)) :
    (replyTo request body).normalize =
      .object (("@extra", .string token) :: ("@type", .string tag) :: rest) := by
  rw [replyTo_of_normalize normal, extra]
  dsimp only
  cases body with
  | object entries =>
    rw [Json.normalize_object, Json.object.injEq] at normal
    have sorted := Json.sorted_normalizeEntries entries (show Json.Sorted [] from trivial)
    rw [normal] at sorted
    apply Json.normalize_of_sorted
    · exact ⟨(by decide : ("@extra" : String) < "@type"), sorted⟩
    · intro e mem
      rcases List.mem_cons.1 mem with rfl | mem
      · rfl
      · exact Json.normalize_of_mem_normalizeEntries (by rw [normal]; exact mem)
  | _ => simp [Json.normalize] at normal

/-- A known state is tagged with its own tag. -/
theorem tagged_toJson_known {state : AuthState} (known : state ≠ .unknown) :
    Tagged state.toJson state.typeName :=
  ⟨state.fields, AuthState.normalize_toJson known, fun _ mem => (AuthState.of_mem_fields mem).1⟩

/-- The engine's reply to a request under a non-empty token is read as a reply under that token,
with its body's tag. -/
theorem replyOf?_replyTo {body : Json} {tag : String} (tagged : Tagged body tag) {request : Json}
    {token : String} (extra : request.get? "@extra" = some (.string token)) (named : token ≠ "") :
    Envelope.replyOf? (encode (replyTo request body)) =
      some { typeName := tag, extra := token, data := (encode (replyTo request body)).toUTF8 } := by
  obtain ⟨rest, normal, later⟩ := tagged
  rw [encode, normalize_replyTo normal extra]
  exact Envelope.replyOf?_reply (untagged_of_later later) named

/-- The acknowledgement of a request under a token is decoded as an acknowledgement. -/
theorem decodeReply_okBody {request : Json} {token : String}
    (extra : request.get? "@extra" = some (.string token)) :
    ({ typeName := "ok", extra := token, data := (encode (replyTo request okBody)).toUTF8 } :
      Envelope).decodeReply .ok = .ok .ok := by
  rw [encode, normalize_replyTo (show okBody.normalize = .object [("@type", .string "ok")] from rfl)
    extra]
  exact Envelope.decodeReply_ok_object token _

/-- A known state sent back to a request under a token is decoded as that state. -/
theorem decodeReply_stateBody {state : AuthState} (known : state ≠ .unknown) {request : Json}
    {token : String} (extra : request.get? "@extra" = some (.string token)) :
    ({ typeName := state.typeName, extra := token,
       data := (encode (replyTo request state.toJson)).toUTF8 } : Envelope).decodeReply .authState =
      .ok (.authState state) := by
  rw [encode, normalize_replyTo (AuthState.normalize_toJson known) extra]
  exact Envelope.decodeReply_state_object known token

end Engine

end Switchboard
