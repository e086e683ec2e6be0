/-!
# JSON values

The value type every other part of the library reads and writes. A number keeps the class a
reader gives it: a natural number that fits 64 bits, a negative number that fits 64 signed bits,
or a binary64 float. Objects are lists of entries. A *normalized* object has its keys strictly
increasing, so each key occurs once and printing visits keys in code-point order; `normalize`
builds that form with the rule that a later entry for a key replaces an earlier one. A *raw*
object keeps the entries as they stood in a text, duplicates included, which is what a decoder
sees when it buffers part of a document before deciding how to read it.
-/

namespace Switchboard

/-- A JSON number in the class a reader assigns it. -/
inductive Number where
  /-- A non-negative integer below 2^64. -/
  | natural (value : UInt64)
  /-- A negative integer at or above -2^63. -/
  | negative (value : Int64)
  /-- Any other number, as a finite binary64 value. -/
  | float (value : Float)

/-- A JSON value. -/
inductive Json where
  | null
  | bool (value : Bool)
  | number (value : Number)
  | string (value : String)
  | array (items : List Json)
  | object (entries : List (String × Json))

namespace Number

/-- The number an integer denotes: non-negative integers are natural, others negative. -/
def ofInt (value : Int) : Number :=
  if value < 0 then .negative (Int64.ofInt value) else .natural (UInt64.ofNat value.toNat)

/-- Two numbers are the same when they have the same class and value. -/
def beq : Number → Number → Bool
  | .natural a, .natural b => a == b
  | .negative a, .negative b => a == b
  | .float a, .float b => a == b
  | _, _ => false

instance : BEq Number := ⟨beq⟩

end Number

namespace Json

/-- Inserts an entry into a normalized entry list, replacing the value of an equal key. -/
def insertEntry (key : String) (value : Json) : List (String × Json) → List (String × Json)
  | [] => [(key, value)]
  | (k, v) :: rest =>
      if key < k then (key, value) :: (k, v) :: rest
      else if key = k then (key, value) :: rest
      else (k, v) :: insertEntry key value rest

/-- Entries with strictly increasing keys. -/
def Sorted : List (String × Json) → Prop
  | [] => True
  | [_] => True
  | (k₁, _) :: (k₂, v₂) :: rest => k₁ < k₂ ∧ Sorted ((k₂, v₂) :: rest)

mutual

/-- The normalized form of a value: every object has sorted keys, the last entry of a key wins. -/
def normalize : Json → Json
  | .array items => .array (normalizeItems items)
  | .object entries => .object (normalizeEntries [] entries)
  | other => other

/-- Normalizes every item of an array. -/
def normalizeItems : List Json → List Json
  | [] => []
  | item :: rest => normalize item :: normalizeItems rest

/-- Inserts raw entries, in order, into the normalized list `acc`. -/
def normalizeEntries (acc : List (String × Json)) : List (String × Json) → List (String × Json)
  | [] => acc
  | (key, value) :: rest => normalizeEntries (insertEntry key (normalize value) acc) rest

end

/-- The value of `key` in an object: the last entry with that key. -/
def get? (value : Json) (key : String) : Option Json :=
  match value with
  | .object entries => (entries.reverse.find? (fun entry => entry.1 == key)).map (·.2)
  | _ => none

/-- The text of a string value. -/
def asString? : Json → Option String
  | .string text => some text
  | _ => none

mutual

/-- The nesting depth of a value: scalars have depth 0. -/
def depth : Json → Nat
  | .array items => itemsDepth items + 1
  | .object entries => entriesDepth entries + 1
  | _ => 0

/-- The greatest depth of a list of items. -/
def itemsDepth : List Json → Nat
  | [] => 0
  | item :: rest => max (depth item) (itemsDepth rest)

/-- The greatest depth of the values of a list of entries. -/
def entriesDepth : List (String × Json) → Nat
  | [] => 0
  | (_, value) :: rest => max (depth value) (entriesDepth rest)

end

/-- Removes the entries with key `key` from an object; other values are unchanged. -/
def erase (value : Json) (key : String) : Json :=
  match value with
  | .object entries => .object (entries.filter (fun entry => entry.1 != key))
  | other => other

/-- Sets `key` in a normalized object. Other values are unchanged. -/
def set (value : Json) (key : String) (item : Json) : Json :=
  match value with
  | .object entries => .object (insertEntry key item entries)
  | other => other

/-- A normalized object from a list of entries. -/
def ofEntries (entries : List (String × Json)) : Json :=
  .object (normalizeEntries [] entries)

end Json

end Switchboard
