import Switchboard.Json.Source

/-!
# Reading a value already in memory

A `JsonSource` over a `Json` value. Its errors carry no place. The value is read in document
order: the reader keeps the value due next and, for each container it is inside, the items not
yet read.

Two kinds of value are read this way, and they differ only in how a container whose items a
decoder left unread is reported:

* a value *parsed* from text (normalized: one entry per key) reports "fewer elements in array"
  or "in map";
* a value *buffered* while a tagged union looked for its tag (entries as written, repeats kept)
  reports how many items the decoder did read.
-/

namespace Switchboard

/-- How a value in memory came to be, which decides how unread items are reported. -/
inductive TreeFlavor where
  /-- Parsed from text into a normalized value. -/
  | parsed
  /-- Buffered as written while looking for a tag. -/
  | buffered
  deriving DecidableEq

/-- A container being read: its items not yet read and how many were read. -/
structure TreeFrame where
  /-- The remaining items; a map's carry their keys. -/
  rest : List (Option String × Json)
  isMap : Bool
  taken : Nat

/-- The reader's state over a value. -/
structure TreeCursor where
  flavor : TreeFlavor
  /-- The value the next request reads. -/
  due : Option Json
  /-- The containers being read, innermost first. -/
  frames : List TreeFrame
  /-- The size of the whole value, bounding how many requests can succeed. -/
  size : Nat

/-- Reading a value in memory. -/
abbrev Walk := ExceptT DecodeError (StateM TreeCursor)

namespace Json

mutual

/-- The number of nodes of a value. -/
def size : Json → Nat
  | .array items => itemsSize items + 1
  | .object entries => entriesSize entries + 1
  | _ => 1

/-- The number of nodes of a list of values. -/
def itemsSize : List Json → Nat
  | [] => 0
  | item :: rest => size item + itemsSize rest

/-- The number of nodes of the values of a list of entries. -/
def entriesSize : List (String × Json) → Nat
  | [] => 0
  | (_, item) :: rest => size item + entriesSize rest

end

/-- A value as a scalar, or none for a container. -/
def scalar? : Json → Option Scalar
  | .null => some .null
  | .bool value => some (.bool value)
  | .number value => some (.number value)
  | .string value => some (.string value)
  | _ => none

end Json

namespace Walk

/-- Takes the value due next. -/
def take : Walk Json := do
  let cursor ← get
  match cursor.due with
  | some value => do
      set { cursor with due := none }
      pure value
  | none => throw JsonSource.exhausted

/-- How a container with `total` items, of which a decoder read `taken`, is refused. -/
def leftover (flavor : TreeFlavor) (isMap : Bool) (total taken : Nat) : DecodeError :=
  let kind := if isMap then "map" else if flavor = .parsed then "array" else "sequence"
  match flavor with
  | .parsed => DecodeError.invalidLength total ("fewer elements in " ++ kind)
  | .buffered =>
      let count := if taken = 1 then "1 element" else toString taken ++ " elements"
      DecodeError.invalidLength total (count ++ " in " ++ kind)

/-- Reads a container's items with `body`, then checks that none is left. -/
def enter {α : Type} (items : List (Option String × Json)) (isMap : Bool) (body : Walk α) :
    Walk α := do
  modify fun cursor => { cursor with frames := { rest := items, isMap, taken := 0 } :: cursor.frames }
  let value ← body
  let cursor ← get
  match cursor.frames with
  | frame :: outer =>
      set { cursor with frames := outer }
      if frame.rest.isEmpty then pure value
      else throw (leftover cursor.flavor isMap (frame.taken + frame.rest.length) frame.taken)
  | [] => pure value

/-- `JsonSource.scalar` on a value in memory. -/
def scalarRequest {α : Type} (expected : String) (accept : Scalar → Except DecodeError α) :
    Walk α := do
  match ← take with
  | .array _ => throw (DecodeError.invalidType .sequence expected)
  | .object _ => throw (DecodeError.invalidType .map expected)
  | .null => liftExcept (accept .null)
  | .bool value => liftExcept (accept (.bool value))
  | .number value => liftExcept (accept (.number value))
  | .string value => liftExcept (accept (.string value))
where
  /-- Lifts a decoder's verdict. -/
  liftExcept {β : Type} (result : Except DecodeError β) : Walk β :=
    match result with
    | .ok value => pure value
    | .error error => throw error

/-- `JsonSource.value` on a value in memory. -/
def valueRequest {α : Type} (expected : String) (onScalar : Scalar → Except DecodeError α)
    (onMap : Option (Walk α)) (onSeq : Option (Walk α)) : Walk α := do
  match ← take with
  | .array items =>
      enter (items.map fun item => (none, item)) false
        (onSeq.getD (throw (DecodeError.invalidType .sequence expected)))
  | .object entries =>
      enter (entries.map fun (key, item) => (some key, item)) true
        (onMap.getD (throw (DecodeError.invalidType .map expected)))
  | .null => scalarRequest.liftExcept (onScalar .null)
  | .bool value => scalarRequest.liftExcept (onScalar (.bool value))
  | .number value => scalarRequest.liftExcept (onScalar (.number value))
  | .string value => scalarRequest.liftExcept (onScalar (.string value))

/-- Takes the next item of the innermost container and makes its value due. -/
def advance : Walk (Option (Option String)) := do
  let cursor ← get
  match cursor.frames with
  | frame :: outer =>
      match frame.rest with
      | (key, item) :: rest =>
          set { cursor with
            due := some item
            frames := { frame with rest, taken := frame.taken + 1 } :: outer }
          pure (some key)
      | [] => pure none
  | [] => pure none

/-- `JsonSource.nextKey` on a value in memory. -/
def nextKeyRequest : Walk (Option String) := do
  match ← advance with
  | some key => pure (some (key.getD ""))
  | none => pure none

/-- `JsonSource.nextElement` on a value in memory. -/
def nextElementRequest : Walk Bool := do
  pure (← advance).isSome

/-- `JsonSource.skip` on a value in memory. -/
def skipRequest : Walk Unit := do
  let _ ← take

/-- `JsonSource.budget` on a value in memory. -/
def budgetRequest : Walk Nat := do
  pure ((← get).size + 1)

end Walk

instance : JsonSource Walk where
  scalar := Walk.scalarRequest
  value := Walk.valueRequest
  nextKey := Walk.nextKeyRequest
  entry := fun read => read
  nextElement := Walk.nextElementRequest
  skip := Walk.skipRequest
  budget := Walk.budgetRequest

namespace Json

/-- Decodes a value in memory with `decoder`. -/
def decodeTree {α : Type} (flavor : TreeFlavor) (value : Json) (decoder : Walk α) :
    Except DecodeError α :=
  (decoder.run.run { flavor, due := some value, frames := [], size := value.size }).1

end Json

end Switchboard
