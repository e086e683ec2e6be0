import Switchboard.Json.Tree

/-!
# Records and tagged unions

A record is read from a map, field by field in any order (an unknown field is skipped, a field
given twice is an error, a missing one takes its default or is an error), or from a sequence,
field by field in declaration order (a sequence that ends early fills the remaining fields with
their defaults until it reaches one that has none).

A tagged union keeps its tag inside the value, under a fixed key. The tag can come anywhere in
the map, so the other entries are buffered as written until the map ends; then the tag chooses
the variant, and the variant reads the buffered entries. Errors the variant finds there carry no
place. A union may also come as a sequence whose first item is the tag.
-/

namespace Switchboard
namespace JsonSource

variable {m : Type → Type} [Monad m] [MonadExceptOf DecodeError m] [JsonSource m]

/-- How a record given as a sequence names its length: "struct X with 3 elements". -/
def recordLength (record : String) (count : Nat) : String :=
  record ++ " with " ++ toString count ++ (if count = 1 then " element" else " elements")

/-- Reads field `index` of a record given as a sequence of `count` items; when the sequence has
ended, the field's default, or the error that the sequence is too short. -/
def positional {α : Type} (record : String) (count index : Nat) (read : m α)
    (default? : Option α) : m α := do
  if ← nextElement then read
  else
    match default? with
    | some value => pure value
    | none => throw (DecodeError.invalidLength index (recordLength record count))

/-- A field's value, its default when it is missing, or the missing-field error. -/
def withDefault {α : Type} (current : Option α) (name : String) (default? : Option α) : m α :=
  match current, default? with
  | some value, _ => pure value
  | none, some value => pure value
  | none, none => throw (DecodeError.missingField name)

/-- Reads a record with the one field `name`. -/
def single {α : Type} (record name : String) (read : m α) (default? : Option α) : m α :=
  JsonSource.record record
    (do
      let found ← foldEntries (none : Option α) fun found key =>
        if key = name then fieldOnce found name read
        else do entry skip; pure found
      withDefault found name default?)
    (positional record 1 0 read default?)

/-- Reads a tagged union's tag and the rest of the value as written; `fuel` bounds the nesting of
the buffered rest. -/
def tagged {τ : Type} (union tagKey : String) (readTag : m τ) (fuel : Nat) : m (τ × Json) :=
  let expected := "internally tagged enum " ++ union
  value expected (fun found => .error (DecodeError.invalidType found.unexpected expected))
    (some do
      let (tag?, entries) ← foldEntries ((none : Option τ), ([] : List (String × Json)))
        fun (tag?, entries) key => do
          if key = tagKey then
            if tag?.isSome then throw (DecodeError.duplicateField tagKey)
            let tag ← entry readTag
            pure (some tag, entries)
          else
            let item ← entry (rawJson fuel)
            pure (tag?, (key, item) :: entries)
      match tag? with
      | some tag => pure (tag, .object entries.reverse)
      | none => throw (DecodeError.missingField tagKey))
    (some do
      match ← element? readTag with
      | some tag => pure (tag, .array (← collectElements (rawJson fuel)))
      | none => throw (DecodeError.missingField tagKey))

/-- Reads a tagged union: the tag picks `variant`, which reads the buffered rest. -/
def union {τ α : Type} (name tagKey : String) (readTag : m τ) (variant : τ → Walk α) (fuel : Nat) :
    m α := do
  let (tag, rest) ← tagged name tagKey readTag fuel
  match Json.decodeTree .buffered rest (variant tag) with
  | .ok result => pure result
  | .error error => throw error

/-- Accepts a tag that is a string, with `choose` naming the variant it selects. -/
def variantTag {τ : Type} (choose : String → Except DecodeError τ) : m τ :=
  scalar "variant identifier" fun
    | .string name => choose name
    | other => .error (DecodeError.invalidType other.unexpected "variant identifier")

end JsonSource

namespace Walk

/-- Reads a variant without fields: any map is accepted whole, a sequence only when empty. -/
def unitVariant (union variant : String) : Walk Unit :=
  JsonSource.value ("unit variant " ++ union ++ "::" ++ variant)
    (fun found => .error (DecodeError.invalidType found.unexpected
      ("unit variant " ++ union ++ "::" ++ variant)))
    (some do
      JsonSource.foldEntries () fun () _ => JsonSource.entry JsonSource.skip)
    (some (pure ()))

end Walk

end Switchboard
