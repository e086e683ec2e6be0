import Switchboard.Proofs.Normalization
import Switchboard.Proofs.ValueSkipping
import Switchboard.Wire.Request

/-!
# Requests on the wire

A request is built from its tag by calls that set a field or attach a token. Every such request
keeps its fields in key order and none under a tag key (`Request.Wf`), and so does the request of
every typed operation. For such a request the wire object has distinct keys and holds exactly the
tag, the token when it is not empty, and the fields (`Wf.get?_toJson`).

Two readers take the text back. A reader of messages reads only the tags, passing over every
field without decoding it; since the skipping machine passes over the text of any value, floats
included, it gives back the tag and the token of every request (`Envelope.ofBytes_request`). A
parser builds the whole value; it reads integers and strings back exactly, but a float's text
need not read back to the same float, so the parse is stated for fields without floats
(`Request.parseBytes_toText`). The fields of typed operations hold no floats.
-/

namespace Switchboard

namespace Request

/-- A request's fields are in key order, none of them under a tag key. -/
structure Wf (request : Request) : Prop where
  sorted : Json.Sorted request.data
  untagged : ∀ e ∈ request.data, isTagKey e.1 = false

theorem wf_new (typeName : String) : Wf { typeName } := ⟨trivial, by simp⟩

theorem Wf.withField {request : Request} (wf : request.Wf) (name : String) (value : Json) :
    (request.withField name value).Wf := by
  unfold Request.withField
  split
  · exact wf
  · rename_i plain
    refine ⟨wf.sorted.insertEntry name value, ?_⟩
    intro e mem
    rcases Json.mem_insertEntry mem with rfl | mem
    · simpa using plain
    · exact wf.untagged e mem

theorem Wf.withExtra {request : Request} (wf : request.Wf) (extra : String) :
    (request.withExtra extra).Wf :=
  ⟨wf.sorted, wf.untagged⟩

/-- One call of the request builder. -/
inductive Step where
  | field (name : String) (value : Json)
  | extra (token : String)

namespace Step

/-- A builder call made on a request. -/
def apply (request : Request) : Step → Request
  | field name value => request.withField name value
  | extra token => request.withExtra token

/-- The last value given to `name`, after one more call. -/
def lastValue (name : String) (found : Option Json) : Step → Option Json
  | field key value => if key = name then some value else found
  | extra _ => found

/-- The last token attached, after one more call. -/
def lastToken (token : String) : Step → String
  | field .. => token
  | extra token => token

end Step

/-- The request a builder makes of a tag and a sequence of calls. -/
def build (typeName : String) (steps : List Step) : Request :=
  steps.foldl Step.apply { typeName }

/-- The value the last call that set `name` gave it. -/
def lastField (name : String) (steps : List Step) : Option Json :=
  steps.foldl (Step.lastValue name) none

/-- The token the last call that attached one gave; empty when none did. -/
def lastExtra (steps : List Step) : String :=
  steps.foldl Step.lastToken ""

theorem Wf.apply {request : Request} (wf : request.Wf) : ∀ step, (Step.apply request step).Wf
  | .field name value => wf.withField name value
  | .extra token => wf.withExtra token

theorem Wf.foldl : ∀ (steps : List Step) {request : Request}, request.Wf →
    (steps.foldl Step.apply request).Wf
  | [], _, wf => wf
  | step :: steps, _, wf => Wf.foldl steps (wf.apply step)

theorem wf_build (typeName : String) (steps : List Step) : (build typeName steps).Wf :=
  Wf.foldl steps (wf_new typeName)

theorem typeName_apply (request : Request) : ∀ step, (Step.apply request step).typeName = request.typeName
  | .field name value => by
    simp only [Step.apply, Request.withField]
    split <;> rfl
  | .extra _ => rfl

theorem extra_apply (request : Request) :
    ∀ step, (Step.apply request step).extra = Step.lastToken request.extra step
  | .field name value => by
    simp only [Step.apply, Request.withField]
    split <;> rfl
  | .extra _ => rfl

theorem typeName_foldl : ∀ (steps : List Step) (request : Request),
    (steps.foldl Step.apply request).typeName = request.typeName
  | [], _ => rfl
  | step :: steps, request => by rw [List.foldl_cons, typeName_foldl steps, typeName_apply]

theorem extra_foldl : ∀ (steps : List Step) (request : Request),
    (steps.foldl Step.apply request).extra = steps.foldl Step.lastToken request.extra
  | [], _ => rfl
  | step :: steps, request => by
    rw [List.foldl_cons, extra_foldl steps, extra_apply, List.foldl_cons]

/-- A field's value after a sequence of calls: the last value a call gave it, over the value it
had. -/
theorem lookup_foldl {name : String} (plain : isTagKey name = false) : ∀ (steps : List Step)
    (request : Request), (steps.foldl Step.apply request).data.lookup name =
      steps.foldl (Step.lastValue name) (request.data.lookup name)
  | [], _ => rfl
  | .field key value :: steps, request => by
    rw [List.foldl_cons, lookup_foldl plain steps, List.foldl_cons]
    congr 1
    simp only [Step.apply, Request.withField, Step.lastValue]
    split
    · rename_i tag
      have apart : key ≠ name := fun same => by rw [same, plain] at tag; cases tag
      simp [apart]
    · rw [Json.lookup_insertEntry]
      by_cases hit : key = name
      · subst hit
        simp
      · simp [hit, Ne.symm hit]
  | .extra token :: steps, request => by
    rw [List.foldl_cons, lookup_foldl plain steps, List.foldl_cons]
    rfl

/-! ## The wire object -/

/-- The entries of a request's wire object: the tag, the token when there is one, the fields. -/
theorem toJson_entries (request : Request) :
    request.toJson = .object (("@type", Json.string request.typeName) ::
      ((if request.extra.isEmpty then [] else [("@extra", Json.string request.extra)]) ++
        request.data)) :=
  rfl

theorem Wf.tag_absent {request : Request} (wf : request.Wf) {key : String} (tag : isTagKey key = true) :
    key ∉ request.data.map Prod.fst := by
  intro mem
  obtain ⟨e, inside, rfl⟩ := List.mem_map.1 mem
  rw [wf.untagged e inside] at tag
  cases tag

/-- The keys of a request's wire object are distinct. -/
theorem Wf.distinct {request : Request} (wf : request.Wf) :
    ((("@type", Json.string request.typeName) :: ((if request.extra.isEmpty then []
      else [("@extra", Json.string request.extra)]) ++ request.data)).map Prod.fst).Nodup := by
  have typeAbsent := wf.tag_absent (show isTagKey "@type" = true from rfl)
  have extraAbsent := wf.tag_absent (show isTagKey "@extra" = true from rfl)
  have fields := wf.sorted.nodup
  split
  · simpa using And.intro typeAbsent fields
  · simp only [List.singleton_append, List.map_cons, List.nodup_cons, List.mem_cons, not_or]
    exact ⟨⟨by decide, typeAbsent⟩, extraAbsent, fields⟩

/-- What the wire object says: the tag, the token when there is one, and each field's value. -/
theorem Wf.get?_toJson {request : Request} (wf : request.Wf) (name : String) :
    request.toJson.get? name =
      if name = "@type" then some (.string request.typeName)
      else if name = "@extra" then
        (if request.extra.isEmpty then none else some (.string request.extra))
      else request.data.lookup name := by
  rw [toJson_entries, Json.get?_eq_lookup wf.distinct, Json.lookup_cons]
  by_cases isType : name = "@type"
  · simp [isType]
  by_cases isExtra : name = "@extra"
  · subst isExtra
    by_cases empty : request.extra.isEmpty
    · simp [empty, Json.lookup_of_not_mem (wf.tag_absent (show isTagKey "@extra" = true from rfl))]
    · simp [empty]
  · by_cases empty : request.extra.isEmpty
    · simp [isType, isExtra, empty]
    · simp [isType, isExtra, empty, Json.lookup_cons]

/-- The wire object's entries other than the fields are the tag and the token, both strings. -/
theorem mem_toJson_entries {request : Request} {e : String × Json}
    (mem : e ∈ ("@type", .string request.typeName) ::
      ((if request.extra.isEmpty then [] else [("@extra", .string request.extra)]) ++ request.data)) :
    (∃ text, e.2 = .string text) ∨ e ∈ request.data := by
  simp only [List.mem_cons, List.mem_append] at mem
  rcases mem with rfl | mem | mem
  · exact .inl ⟨_, rfl⟩
  · split at mem
    · cases mem
    · rw [List.mem_singleton.1 mem]
      exact .inl ⟨_, rfl⟩
  · exact .inr mem

theorem integral_toJson {request : Request} (numbers : ∀ e ∈ request.data, e.2.integral = true) :
    request.toJson.integral = true := by
  rw [toJson_entries, Json.integral, Json.entriesIntegral_iff]
  intro e mem
  rcases mem_toJson_entries mem with ⟨text, same⟩ | mem
  · rw [same]
    rfl
  · exact numbers e mem

theorem depth_toJson {request : Request} (shallow : ∀ e ∈ request.data, e.2.depth < 127) :
    request.toJson.depth < 128 := by
  rw [toJson_entries, Json.depth]
  suffices bound : Json.entriesDepth (("@type", .string request.typeName) ::
      ((if request.extra.isEmpty then [] else [("@extra", .string request.extra)]) ++ request.data)) ≤ 126 by
    omega
  rw [Json.entriesDepth_le_iff]
  intro e mem
  rcases mem_toJson_entries mem with ⟨text, same⟩ | mem
  · rw [same]
    exact Nat.zero_le _
  · exact Nat.le_of_lt_succ (shallow e mem)

/-- The wire text of a request whose numbers are integers and whose fields nest less than 127
deep parses to the normal form of its wire object. -/
theorem parseBytes_toText {request : Request}
    (plain : ∀ e ∈ request.data, e.2.integral = true ∧ e.2.depth < 127) :
    Json.parseBytes request.toText.toUTF8 = .ok request.toJson.normalize :=
  Json.parseBytes_compact request.toJson (integral_toJson fun e mem => (plain e mem).1)
    (depth_toJson fun e mem => (plain e mem).2)

end Request

theorem Number.canonical_ofInt {v : Int} (low : -2 ^ 63 ≤ v) : (Number.ofInt v).canonical = true := by
  unfold Number.ofInt
  split
  · rename_i negative
    simp [Number.canonical, Int64.toInt_ofInt_of_le low (by omega), negative]
  · rfl

namespace Operation

/-- Every operation's fields are under plain keys and hold integers, strings and flags, at most
one level deep. -/
theorem payload_entries (op : Operation) : ∃ entries, op.payload = .object entries ∧
    ∀ e ∈ entries, Request.isTagKey e.1 = false ∧ e.2.integral = true ∧ e.2.depth ≤ 1 := by
  cases op with
  | setParameters p =>
    refine ⟨_, rfl, ?_⟩
    have apiId := Number.canonical_ofInt (v := p.apiId.toInt) (by have := Int32.le_toInt p.apiId; omega)
    simp [Request.isTagKey, Parameters.toJson, Json.integral, Json.entriesIntegral, Json.depth,
      Json.entriesDepth, apiId]
  | _ =>
    refine ⟨_, rfl, ?_⟩
    simp [Request.isTagKey, Json.integral, Json.depth]

/-- The fields of an operation's request are the entries of the operation's normalized fields,
the filter on tag keys leaving out none of them. -/
theorem toRequest_data (op : Operation) : Json.object op.toRequest.data = op.payload.normalize := by
  obtain ⟨entries, payload, plain⟩ := op.payload_entries
  simp only [toRequest, payload, Json.normalize_object]
  rw [List.filter_eq_self.2]
  intro e mem
  rcases Json.mem_normalizeEntries mem with mem | ⟨v, inside, -⟩
  · cases mem
  · simp [(plain _ inside).1]

theorem toRequest_wf (op : Operation) : op.toRequest.Wf := by
  obtain ⟨entries, payload, -⟩ := op.payload_entries
  simp only [toRequest, payload, Json.normalize_object]
  refine ⟨(Json.sorted_normalizeEntries entries (show Json.Sorted [] from trivial)).filter _, ?_⟩
  intro e mem
  simpa using (List.mem_filter.1 mem).2

/-- The fields of an operation's request hold integers, strings and flags, at most one level
deep. -/
theorem toRequest_plain (op : Operation) :
    ∀ e ∈ op.toRequest.data, e.2.integral = true ∧ e.2.depth < 127 := by
  obtain ⟨entries, payload, plain⟩ := op.payload_entries
  intro e mem
  simp only [toRequest, payload, Json.normalize_object] at mem
  rcases Json.mem_normalizeEntries (List.mem_filter.1 mem).1 with mem | ⟨v, inside, same⟩
  · cases mem
  · obtain ⟨-, numbers, shallow⟩ := plain _ inside
    dsimp only at numbers shallow
    have kept := Json.normalize_integral_depth 2 v (by omega) numbers
    rw [same]
    exact ⟨kept.1, by omega⟩

end Operation

namespace Envelope

open Scan Json

theorem fieldOnce_none {α : Type} (name : String) (read : Scan α) :
    JsonSource.fieldOnce (none : Option α) name read = some <$> entryRequest read := by
  simp [JsonSource.fieldOnce]

/-- The tags read so far after one more entry, for a message with each tag at most once. -/
def tagOf (acc : Option String × Option (Option Json)) (e : String × Json) :
    Option String × Option (Option Json) :=
  if e.1 = "@type" then (e.2.asString?, acc.2)
  else if e.1 = "@extra" then (acc.1, some (some e.2))
  else acc

theorem tagOf_field {e : String × Json} (plain : Request.isTagKey e.1 = false)
    (acc : Option String × Option (Option Json)) : tagOf acc e = acc := by
  simp only [Request.isTagKey, Bool.or_eq_false_iff, beq_eq_false_iff_ne] at plain
  simp [tagOf, plain.1, plain.2]

theorem foldl_tagOf_fields {entries : List (String × Json)}
    (plain : ∀ e ∈ entries, Request.isTagKey e.1 = false) (acc : Option String × Option (Option Json)) :
    entries.foldl tagOf acc = acc := by
  induction entries with
  | nil => rfl
  | cons e rest ih =>
    rw [List.foldl_cons, tagOf_field (plain e List.mem_cons_self),
      ih fun e mem => plain e (List.mem_cons_of_mem _ mem)]

theorem readTags_request {request : Request} (wf : request.Wf) :
    Reads (readTags : Scan (String × Option Json)) (octets request.toText) 1
      (request.typeName, if request.extra.isEmpty then none else some (.string request.extra)) := by
  unfold readTags JsonSource.record
  rw [Request.toText, Request.toJson_entries]
  simp only [value_eq]
  apply valueRequest_object (d := 0)
  refine ReadsContents.bind_of_pure (foldEntries_reads (F := tagOf) ?steps) ?done
  case steps =>
    apply StepsThrough.cons
    · simp only [tagOf, ↓reduceIte, fieldOnce_none]
      have accepts : JsonSource.acceptString "a string" (.string request.typeName) =
          .ok request.typeName := rfl
      exact ((scalarRequest_scalar (.string request.typeName) rfl accepts).entry.map some).bind_pure
        fun v => (v, none)
    · have first : tagOf (none, none) ("@type", .string request.typeName) =
          (some request.typeName, none) := by simp [tagOf, asString?]
      rw [first]
      apply StepsThrough.append
      · -- the token, when there is one, read as any value
        split
        · exact StepsThrough.nil _
        · apply StepsThrough.cons _ (StepsThrough.nil _)
          have apart : ¬("@extra" : String) = "@type" := by decide
          simp only [tagOf, apart, ↓reduceIte, fieldOnce_none]
          have token : Reads (JsonSource.optionalJson 130 : Scan (Option Json))
              (octets (compact (.string request.extra))) 0 (some (.string request.extra)) :=
            ((rawJson_reads 130 (.string request.extra) rfl (Nat.zero_lt_succ _)).map normalize).bind_of_pure rfl
          exact (token.entry.map some).bind_pure fun v => (some request.typeName, v)
      · -- every field is passed over and leaves the tags as they are
        apply StepsThrough.of_fixed
        intro e mem
        have plain := wf.untagged e mem
        refine ⟨tagOf_field plain _, ?_⟩
        simp only [Request.isTagKey, Bool.or_eq_false_iff, beq_eq_false_iff_ne] at plain
        simp only [plain.1, plain.2, ↓reduceIte]
        exact (skipValue_reads e.2 0).entry.bind_pure fun _ => _
  case done =>
    rw [List.foldl_cons, List.foldl_append, foldl_tagOf_fields wf.untagged]
    have apart : ¬("@extra" : String) = "@type" := by decide
    split <;> simp [tagOf, asString?, apart, JsonSource.required]

/-- Reading a request's wire text as a message gives back the request's tag and token. -/
theorem ofBytes_request {request : Request} (wf : request.Wf) :
    ofBytes request.toText.toUTF8 =
      .ok { typeName := request.typeName, extra := request.extra, data := request.toText.toUTF8 } := by
  have decoded : decodeText request.toText.toUTF8 readTags =
      .ok (request.typeName, if request.extra.isEmpty then none else some (.string request.extra)) :=
    decodeText_compact (readTags_request wf) (by decide)
  unfold ofBytes
  rw [decoded]
  by_cases empty : request.extra.isEmpty
  · have blank : request.extra = "" := String.isEmpty_iff.1 empty
    simp [blank]
  · simp [empty]

end Envelope


namespace Request

/-- What a request's wire text tells its readers. The fields use no tag key and the keys of the
wire object are distinct; the object holds the tag, the token when there is one and each field; a
reader of messages gets the tag and the token back; and when the fields hold no floats and nest
less than 127 deep, the text parses to an object with distinct keys, each bound to its value in
normal form. -/
structure ReadsBack (request : Request) : Prop where
  untagged : ∀ e ∈ request.data, isTagKey e.1 = false
  distinct : ∃ entries, request.toJson = .object entries ∧ (entries.map Prod.fst).Nodup
  members : ∀ name, request.toJson.get? name =
    if name = "@type" then some (.string request.typeName)
    else if name = "@extra" then
      (if request.extra.isEmpty then none else some (.string request.extra))
    else request.data.lookup name
  envelope : Envelope.ofBytes request.toText.toUTF8 =
    .ok { typeName := request.typeName, extra := request.extra, data := request.toText.toUTF8 }
  parses : (∀ e ∈ request.data, e.2.integral = true ∧ e.2.depth < 127) →
    ∃ entries, Json.parseBytes request.toText.toUTF8 = .ok (.object entries) ∧
      (entries.map Prod.fst).Nodup ∧
      ∀ name, (Json.object entries).get? name = (request.toJson.get? name).map Json.normalize

theorem Wf.readsBack {request : Request} (wf : request.Wf) : request.ReadsBack where
  untagged := wf.untagged
  distinct := ⟨_, toJson_entries request, wf.distinct⟩
  members := wf.get?_toJson
  envelope := Envelope.ofBytes_request wf
  parses plain := by
    refine ⟨_, by rw [parseBytes_toText plain, toJson_entries, Json.normalize_object],
      (Json.sorted_normalizeEntries _ (show Json.Sorted [] from trivial)).nodup, fun name => ?_⟩
    rw [← Json.normalize_object, Json.get?_normalize, ← toJson_entries]

end Request

/-- Requests read back from their wire text. A request built from a tag by any sequence of field
and token calls has that tag, the last token attached, and each field bound to the last value set
for it; an operation's request carries the operation's fields in normal form. Either way the tag
keys are never fields, the wire object has distinct keys, and its text reads back as
`Request.ReadsBack` states; an operation's fields hold no floats, so its text always parses back. -/
theorem requests_read_back (typeName : String) (steps : List Request.Step) (op : Operation) :
    (Request.build typeName steps).typeName = typeName ∧
    (Request.build typeName steps).extra = Request.lastExtra steps ∧
    (∀ name, Request.isTagKey name = false →
      (Request.build typeName steps).data.lookup name = Request.lastField name steps) ∧
    (Request.build typeName steps).ReadsBack ∧
    Json.object op.toRequest.data = op.payload.normalize ∧ op.toRequest.ReadsBack ∧
    Json.parseBytes op.toRequest.toText.toUTF8 = .ok op.toRequest.toJson.normalize :=
  ⟨Request.typeName_foldl steps _, Request.extra_foldl steps _,
    fun _ plain => Request.lookup_foldl plain steps _, (Request.wf_build typeName steps).readsBack,
    op.toRequest_data, op.toRequest_wf.readsBack, Request.parseBytes_toText op.toRequest_plain⟩

end Switchboard
