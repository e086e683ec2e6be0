import Switchboard.Proofs.MessageViews
import Switchboard.Proofs.RequestTexts
import Switchboard.Proofs.TreeReading

/-!
# 64-bit integers on the wire

A 64-bit integer is written as its decimal text in a string, and read from an integer number or
from a string. Over every value the reader accepts exactly the values a 64-bit integer is written
as (`Wide.Written`): a number holding an integer within the signed 64-bit range, or a string of an
optional sign and one or more ASCII digits whose value is in that range (`Wide.Spells`, which
`parse?` reads exactly: `Wide.parse?_eq_some`). Floats, integers out of range, other strings,
`null`, booleans and containers are refused (`Wide.decodeTree_read`). The written form of an
integer is the shortest text that spells it (`Wide.length_toString_le`), and it is read back to
the integer, from the value and from its printed text; so is every integer literal in range
(`Wide.decodeText_literal`). An option update carrying an integer option reads
its value the same way (`Event.ofJson_integer_option`).

One integer literal is not read: the reader hands `-0` over as the float `-0.0`, which no 64-bit
integer is read from (`Wide.negative_zero_is_refused`).
-/

namespace Switchboard

namespace Wide

/-! ## Decimal texts -/

/-- One or more ASCII digits. -/
def Digits (ds : List Char) : Prop := ds ≠ [] ∧ ∀ c ∈ ds, c.isDigit

/-- A decimal integer text and the integer it spells: an optional `+` or `-`, then one or more
digits, read in base ten. -/
inductive Spells : List Char → Int → Prop
  | unsigned {ds : List Char} : Digits ds → Spells ds (Nat.ofDigitChars 10 ds 0)
  | plus {ds : List Char} : Digits ds → Spells ('+' :: ds) (Nat.ofDigitChars 10 ds 0)
  | minus {ds : List Char} : Digits ds → Spells ('-' :: ds) (-(Nat.ofDigitChars 10 ds 0 : Int))

theorem digits_iff (ds : List Char) : Digits ds ↔ (ds.isEmpty || !ds.all Char.isDigit) = false := by
  simp [Digits]

theorem Digits.not_sign {c : Char} {ds : List Char} (digits : Digits (c :: ds)) :
    c ≠ '+' ∧ c ≠ '-' := by
  have digit := digits.2 c List.mem_cons_self
  constructor <;> rintro rfl <;> simp at digit

theorem spells_plus {ds : List Char} {v : Int} :
    Spells ('+' :: ds) v ↔ Digits ds ∧ v = Nat.ofDigitChars 10 ds 0 := by
  constructor
  · intro spells
    cases spells with
    | unsigned digits => exact absurd rfl digits.not_sign.1
    | plus digits => exact ⟨digits, rfl⟩
  · rintro ⟨digits, rfl⟩
    exact .plus digits

theorem spells_minus {ds : List Char} {v : Int} :
    Spells ('-' :: ds) v ↔ Digits ds ∧ v = -(Nat.ofDigitChars 10 ds 0 : Int) := by
  constructor
  · intro spells
    cases spells with
    | unsigned digits => exact absurd rfl digits.not_sign.2
    | minus digits => exact ⟨digits, rfl⟩
  · rintro ⟨digits, rfl⟩
    exact .minus digits

theorem spells_unsigned {cs : List Char} (plus : ∀ ds, cs ≠ '+' :: ds) (minus : ∀ ds, cs ≠ '-' :: ds)
    {v : Int} : Spells cs v ↔ Digits cs ∧ v = Nat.ofDigitChars 10 cs 0 := by
  constructor
  · intro spells
    cases spells with
    | unsigned digits => exact ⟨digits, rfl⟩
    | plus => exact absurd rfl (plus _)
    | minus => exact absurd rfl (minus _)
  · rintro ⟨digits, rfl⟩
    exact .unsigned digits

/-- Every 64-bit integer lies between the least and the greatest. -/
theorem toInt_mem (n : Int64) : least ≤ n.toInt ∧ n.toInt ≤ greatest := by
  have low := Int64.le_toInt n
  have high := Int64.toInt_lt n
  constructor <;> simp only [least, greatest] <;> omega

/-- A 64-bit integer holds every integer from the least to the greatest. -/
theorem toInt_ofInt {v : Int} (low : least ≤ v) (high : v ≤ greatest) : (Int64.ofInt v).toInt = v :=
  Int64.toInt_ofInt_of_le (by simp only [least] at low; omega) (by simp only [greatest] at high; omega)

/-- The range check keeps a value exactly when a 64-bit integer holds it. -/
theorem checked_eq_some {v : Int} {n : Int64} :
    (if least ≤ v ∧ v ≤ greatest then some (Int64.ofInt v) else none) = some n ↔ n.toInt = v := by
  constructor
  · intro checked
    split at checked
    · rename_i range
      cases checked
      exact toInt_ofInt range.1 range.2
    · cases checked
  · rintro rfl
    rw [if_pos (toInt_mem n), Int64.ofInt_toInt]

theorem foldl_digits (ds : List Char) :
    ds.foldl (fun acc c => acc * 10 + (c.toNat - 48)) 0 = Nat.ofDigitChars 10 ds 0 := by
  rw [Nat.ofDigitChars_eq_foldl]
  congr
  funext acc c
  rw [Nat.mul_comm]
  rfl

/-- `parse?` reads exactly the decimal texts of the integers a 64-bit integer holds, each as the
integer it spells. -/
theorem parse?_eq_some {text : String} {n : Int64} :
    parse? text = some n ↔ Spells text.toList n.toInt := by
  unfold parse?
  split
  rename_i negative ds sign
  -- the text is a sign, or none, and the digits after it
  have spells : Spells text.toList n.toInt ↔ Digits ds ∧
      n.toInt = if negative then -(Nat.ofDigitChars 10 ds 0 : Int) else Nat.ofDigitChars 10 ds 0 := by
    split at sign
    · cases sign
      rename_i text
      rw [text, spells_plus]
      simp
    · cases sign
      rename_i text
      rw [text, spells_minus]
      simp
    · cases sign
      rename_i cs plus minus
      rw [spells_unsigned (fun ds same => plus ds same) (fun ds same => minus ds same)]
      simp
  rw [spells]
  by_cases digits : Digits ds
  · rw [if_neg (by rw [(digits_iff ds).1 digits]; decide)]
    simp only [foldl_digits, checked_eq_some, digits, true_and]
  · rw [if_pos ((Bool.not_eq_false _).mp ((digits_iff ds).not.mp digits))]
    simp [digits]

example : parse? "-0042" = some (-42) := by decide
example : parse? "9223372036854775808" = none := by decide

/-- The decimal digits of a natural number. -/
theorem digits_toDigits (m : Nat) : Digits (Nat.toDigits 10 m) :=
  ⟨Nat.toDigits_ne_nil, fun _ mem => Json.isDigit_of_mem_toDigits mem⟩

/-- The decimal text of an integer spells it. -/
theorem spells_toString (v : Int) : Spells (toString v).toList v := by
  rw [Int.toString_eq_repr, Int.repr_eq_if]
  split
  · rename_i nonnegative
    have spelled := Spells.unsigned (digits_toDigits v.toNat)
    rw [Nat.ofDigitChars_ten_toDigits, Int.toNat_of_nonneg nonnegative] at spelled
    simpa [Nat.repr_eq_ofList_toDigits] using spelled
  · rename_i negative
    have spelled := Spells.minus (digits_toDigits (-v).toNat)
    rw [Nat.ofDigitChars_ten_toDigits, Int.toNat_of_nonneg (by omega), Int.neg_neg] at spelled
    simpa [Nat.repr_eq_ofList_toDigits] using spelled

/-- The decimal text of a 64-bit integer is read back to it. -/
theorem parse?_toString (n : Int64) : parse? (toString n.toInt) = some n :=
  parse?_eq_some.2 (spells_toString n.toInt)

/-- Digits spell a number below ten to the power of their count. -/
theorem ofDigitChars_lt {ds : List Char} (digits : ∀ c ∈ ds, c.isDigit) :
    Nat.ofDigitChars 10 ds 0 < 10 ^ ds.length := by
  induction ds with
  | nil => simp
  | cons c cs ih =>
    have digit : c.toNat - '0'.toNat < 10 := by
      have bounds := Char.isDigit_iff_toNat.1 (digits c List.mem_cons_self)
      simp only [Char.reduceToNat] at bounds ⊢
      omega
    have rest := ih fun c mem => digits c (List.mem_cons_of_mem _ mem)
    rw [Nat.ofDigitChars_cons, Nat.ofDigitChars_eq_ofDigitChars_zero, List.length_cons, Nat.pow_succ,
      Nat.mul_zero, Nat.zero_add]
    calc 10 ^ cs.length * (c.toNat - '0'.toNat) + Nat.ofDigitChars 10 cs 0
        < 10 ^ cs.length * (c.toNat - '0'.toNat) + 10 ^ cs.length := Nat.add_lt_add_left rest _
      _ = 10 ^ cs.length * (c.toNat - '0'.toNat + 1) := (Nat.mul_succ _ _).symm
      _ ≤ 10 ^ cs.length * 10 := Nat.mul_le_mul_left _ digit

/-- The decimal text of a natural number is no longer than any digits that spell it. -/
theorem length_repr_le {ds : List Char} (digits : Digits ds) :
    (Nat.ofDigitChars 10 ds 0).repr.length ≤ ds.length :=
  (Nat.length_repr_le_iff (List.length_pos_iff.2 digits.1)).2 (ofDigitChars_lt digits.2)

/-- The decimal text of an integer is no longer than any text that spells it. -/
theorem length_toString_le {cs : List Char} {v : Int} (spelled : Spells cs v) :
    (toString v).length ≤ cs.length := by
  cases spelled with
  | unsigned digits =>
    rw [Int.toString_eq_repr, Int.repr_eq_if, if_pos (by omega), Int.toNat_natCast]
    exact length_repr_le digits
  | plus digits =>
    rw [Int.toString_eq_repr, Int.repr_eq_if, if_pos (by omega), Int.toNat_natCast, List.length_cons]
    exact Nat.le_succ_of_le (length_repr_le digits)
  | @minus ds digits =>
    rw [Int.toString_eq_repr, Int.repr_eq_if, List.length_cons]
    have shorter := length_repr_le digits
    split
    · -- only zero is spelled with a minus sign and not negative
      rename_i nonnegative
      have zero : Nat.ofDigitChars 10 ds 0 = 0 := by omega
      rw [zero] at shorter ⊢
      exact Nat.le_succ_of_le shorter
    · have dash : "-".length = 1 := by decide
      rw [Int.neg_neg, Int.toNat_natCast, String.length_append, dash]
      omega

end Wide

namespace Number

/-- The integer a number holds; a float holds none. -/
def integer? : Number → Option Int
  | .natural value => some value.toNat
  | .negative value => some value.toInt
  | .float _ => none

end Number

namespace Wide

/-! ## What a 64-bit integer is read from -/

/-- The values a 64-bit integer is read from, each with the integer it gives: a number holding an
integer that a 64-bit integer holds, or a string that spells one. -/
inductive Written : Json → Int64 → Prop
  | number {value : Number} {n : Int64} : value.integer? = some n.toInt → Written (.number value) n
  | string {text : String} {n : Int64} : Spells text.toList n.toInt → Written (.string text) n

@[simp] theorem written_number {value : Number} {n : Int64} :
    Written (.number value) n ↔ value.integer? = some n.toInt :=
  ⟨fun | .number held => held, .number⟩

@[simp] theorem written_string {text : String} {n : Int64} :
    Written (.string text) n ↔ Spells text.toList n.toInt :=
  ⟨fun | .string spelled => spelled, .string⟩

/-- A value a 64-bit integer is written as is a scalar. -/
theorem Written.height {v : Json} {n : Int64} (written : Written v n) : v.height = 1 := by
  cases written <;> rfl

/-- A natural number is accepted exactly when a 64-bit integer holds it. -/
theorem accept_natural (u : UInt64) (n : Int64) :
    accept (.number (.natural u)) = .ok n ↔ (u.toNat : Int) = n.toInt := by
  simp only [accept]
  constructor
  · intro accepted
    split at accepted
    · rename_i fits
      cases accepted
      rw [toInt_ofInt (by simp only [least]; omega) fits]
    · cases accepted
  · intro same
    rw [if_pos (same ▸ (toInt_mem n).2), same, Int64.ofInt_toInt]

/-- The scalars the reader accepts are exactly those a 64-bit integer is written as. -/
theorem accept_eq_ok (s : Scalar) (n : Int64) : accept s = .ok n ↔ Written s.toJson n := by
  cases s with
  | number value =>
    cases value with
    | natural u =>
      rw [accept_natural]
      simp [Scalar.toJson, Number.integer?]
    | negative i => simp [accept, Scalar.toJson, Number.integer?, Int64.toInt_inj, eq_comm]
    | float f => simp [accept, Scalar.toJson, Number.integer?]
  | string text =>
    simp only [accept, Scalar.toJson, written_string, ← parse?_eq_some]
    split <;> simp_all
  | null => simp [accept, Scalar.toJson]; rintro ⟨⟩
  | bool b => simp [accept, Scalar.toJson]; rintro ⟨⟩

open Walk in
/-- Over every value, the reader gives what it makes of a scalar, and refuses a container. -/
theorem read_gives (v : Json) :
    Gives (read : Walk Int64) v (v.scalar?.bind fun s => (accept s).toOption) := by
  cases v with
  | null => exact Gives.valueRequest_scalar .null
  | bool b => exact Gives.valueRequest_scalar (.bool b)
  | number value => exact Gives.valueRequest_scalar (.number value)
  | string text => exact Gives.valueRequest_scalar (.string text)
  | array items => exact Gives.valueRequest_array_none items
  | object entries => exact Gives.valueRequest_object_none entries

/-- The reader's outcome on a value is an integer exactly when the value is written as it. -/
theorem outcome_eq_some (v : Json) (n : Int64) :
    (v.scalar?.bind fun s => (accept s).toOption) = some n ↔ Written v n := by
  have accepted : ∀ s : Scalar, (accept s).toOption = some n ↔ Written s.toJson n := fun s => by
    rw [← accept_eq_ok]
    cases accept s <;> simp [Except.toOption]
  cases v with
  | null => exact accepted .null
  | bool b => exact accepted (.bool b)
  | number value => exact accepted (.number value)
  | string text => exact accepted (.string text)
  | array items => simp [Json.scalar?]; rintro ⟨⟩
  | object entries => simp [Json.scalar?]; rintro ⟨⟩

/-- Over every value, the reader accepts exactly the values a 64-bit integer is written as, and
reads each as that integer. -/
theorem decodeTree_read (flavor : TreeFlavor) (v : Json) (n : Int64) :
    Json.decodeTree flavor v (read : Walk Int64) = .ok n ↔ Written v n := by
  rw [Walk.decodeTree_eq_ok (read_gives v), outcome_eq_some]

end Wide

/-! ## Printed records -/

namespace Json

/-- A character a string literal writes as itself. -/
theorem escapeChar_of_plain {c : Char} (plain : Plain c) : escapeChar c = c.toString := by
  obtain ⟨quote, backslash, printable⟩ := plain
  rw [escapeChar, if_neg quote, if_neg backslash, if_neg (by rintro rfl; simp at printable),
    if_neg (by rintro rfl; simp at printable), if_neg (by rintro rfl; simp at printable),
    if_neg (by rintro rfl; simp at printable), if_neg (by rintro rfl; simp at printable),
    if_neg (by omega)]

/-- A string of plain characters is written between quotes as it is. -/
theorem quote_of_plain {text : String} (plain : ∀ c ∈ text.toList, Plain c) :
    quote text = "\"" ++ text ++ "\"" := by
  have same : String.join (text.toList.map escapeChar) = text := by
    rw [← String.toList_inj, String.toList_join, List.flatMap_map]
    conv => rhs; rw [← List.flatMap_singleton' text.toList]
    apply List.flatMap_congr
    intro c mem
    rw [escapeChar_of_plain (plain c mem)]
    exact String.toList_singleton c
  rw [quote, same]

end Json

namespace Scan

attribute [-simp] ExceptT.run_bind

open Json

/-- A record of one field, printed as a map of that field alone, is read by the field's reader. -/
theorem single_reads {α : Type} {read : Scan α} {v : Json} {d : Nat} {a : α}
    (reads : Reads read (octets (compact v)) d a) (record name : String) :
    Reads (JsonSource.single record name read none) (octets (compact (.object [(name, v)])))
      (d + 1) a := by
  unfold JsonSource.single JsonSource.record
  simp only [value_eq]
  apply valueRequest_object
  refine ReadsContents.bind_of_pure (foldEntries_reads (F := fun _ _ => some a) ?_) rfl
  apply StepsThrough.cons _ (StepsThrough.nil _)
  simp only [↓reduceIte, Envelope.fieldOnce_none]
  exact reads.entry.map some

end Scan

namespace Wide

open Scan Json

/-- A record whose field is a value a 64-bit integer is written as, printed with its number, if
any, as an integer, is read to that integer. -/
theorem decodeText_written {v : Json} {n : Int64} (written : Written v n) (integral : v.integral)
    (record : String) :
    decodeText (compact (.object [("value", v)])).toUTF8 (valueRecord record : Scan Int64) = .ok n := by
  obtain ⟨s, rfl⟩ : ∃ s : Scalar, s.toJson = v := by
    cases written with
    | number => exact ⟨.number _, rfl⟩
    | string => exact ⟨.string _, rfl⟩
  have canonical : s.canonical := by
    cases s with
    | number value => exact integral
    | null | bool _ | string _ => rfl
  exact decodeText_compact
    (single_reads (valueRequest_scalar s canonical ((accept_eq_ok s n).2 written)) record "value")
    (by decide)

/-- The decimal text of an integer is a sign and digits, each written as itself in a string. -/
theorem plain_toString (v : Int) : ∀ c ∈ (toString v).toList, Plain c := by
  have digit : ∀ c : Char, c.isDigit → Plain c := by
    intro c isDigit
    have bounds : 48 ≤ c.toNat ∧ c.toNat ≤ 57 := Char.isDigit_iff_toNat.1 isDigit
    refine ⟨?_, ?_, by omega⟩ <;> rintro rfl <;> simp at bounds
  have spelled := spells_toString v
  generalize (toString v).toList = cs at spelled ⊢
  cases spelled with
  | unsigned digits => exact fun c mem => digit c (digits.2 c mem)
  | plus digits | minus digits =>
    intro c mem
    rcases List.mem_cons.1 mem with rfl | mem
    · exact ⟨by decide, by decide, by decide⟩
    · exact digit c (digits.2 c mem)

/-- The printed record of the one field `value`. -/
theorem compact_valueField (x : Json) :
    compact (.object [("value", x)]) = "\x7b\"value\":" ++ compact x ++ "\x7d" := by
  have key : quote "value" = "\"value\"" := by decide
  simp only [compact, compactEntries, key, String.append_assoc]
  rfl

/-- The printed record of a 64-bit integer holds the integer's decimal text as a string. -/
theorem compact_valueRecordJson (n : Int64) :
    compact (valueRecordJson n) = "\x7b\"value\":\"" ++ toString n.toInt ++ "\"\x7d" := by
  rw [valueRecordJson, compact_valueField, toJson, compact, quote_of_plain (plain_toString n.toInt)]
  simp only [String.append_assoc]
  rfl

/-- The printed record of a 64-bit integer is read back to it. -/
theorem decodeText_valueRecordJson (n : Int64) (record : String) :
    decodeText (compact (valueRecordJson n)).toUTF8 (valueRecord record : Scan Int64) = .ok n :=
  decodeText_written (.string (spells_toString n.toInt)) rfl record

/-- An integer up to the greatest fits the natural numbers of 64 bits. -/
theorem toNat_ofNat_toNat {v : Int} (high : v ≤ greatest) : (UInt64.ofNat v.toNat).toNat = v.toNat :=
  UInt64.toNat_ofNat_of_lt' (by simp only [greatest, UInt64.size] at high ⊢; omega)

/-- An integer in range is printed as its decimal text. -/
theorem text_ofInt {v : Int} (low : least ≤ v) (high : v ≤ greatest) :
    (Number.ofInt v).text = toString v := by
  unfold Number.ofInt
  split
  · simp only [Number.text]
    rw [toInt_ofInt low high]
  · rename_i nonnegative
    simp only [Number.text]
    rw [toNat_ofNat_toNat high, Int.toString_eq_repr, Int.repr_eq_if, if_pos (by omega)]
    rfl

/-- An integer in range is held by the number it is printed as. -/
theorem integer?_ofInt {v : Int} (low : least ≤ v) (high : v ≤ greatest) :
    (Number.ofInt v).integer? = some v := by
  unfold Number.ofInt
  split
  · simp only [Number.integer?]
    rw [toInt_ofInt low high]
  · simp only [Number.integer?]
    rw [toNat_ofNat_toNat high, Int.toNat_of_nonneg (by omega)]

/-- Every integer literal in range but `-0`, as the record's field, is read to its value. -/
theorem decodeText_literal {v : Int} (low : least ≤ v) (high : v ≤ greatest) (record : String) :
    decodeText ("\x7b\"value\":" ++ toString v ++ "\x7d").toUTF8 (valueRecord record : Scan Int64) =
      .ok (Int64.ofInt v) := by
  have printed : compact (.object [("value", .number (Number.ofInt v))]) =
      "\x7b\"value\":" ++ toString v ++ "\x7d" := by
    rw [compact_valueField, compact, text_ofInt low high]
  have written : Written (.number (Number.ofInt v)) (Int64.ofInt v) := by
    rw [written_number, integer?_ofInt low high, toInt_ofInt low high]
  rw [← printed]
  exact decodeText_written written (Number.canonical_ofInt (by simp only [least] at low; omega)) record

end Wide

/-! ## Option updates -/

namespace OptionValue

open Walk

/-- What the option value reader makes of an integer option whose value is `v`: the integer `v`
is written as, when `v` nests no deeper than the reader keeps. -/
theorem read_integer (v : Json) :
    Gives (OptionValue.read : Walk OptionValue)
      (.object [("@type", .string "optionValueInteger"), ("value", v)])
      (if v.height ≤ 130 then (v.scalar?.bind fun s => (Wide.accept s).toOption).map integer
      else none) := by
  have gives : Gives (OptionValue.read : Walk OptionValue) _ _ :=
    Gives.union unionName "@type" 130
      (Gives.tagged_object (fun x => Gives.variantTag chooseTag x) unionName "@type" 130
        [("@type", .string "optionValueInteger"), ("value", v)])
  have chosen : chooseTag "optionValueInteger" = .ok 2 := by decide
  have variant : Gives (readVariant 2) (.object [("value", v)]) _ :=
    (Gives.single_object Wide.read_gives "struct variant OptionValue::Integer" "value" none
      [("value", v)]).map integer
  -- the tag is read first and the value is kept for the variant, if it nests no deeper than that
  have tagged : ([("@type", .string "optionValueInteger"), ("value", v)].foldlM
      (tagEntry "@type" (variantTagOf chooseTag) 130) (none, [])).bind
        (fun found => found.1.map fun tag => (tag, Json.object found.2.reverse)) =
      if v.height ≤ 130 then some (2, .object [("value", v)]) else none := by
    by_cases fits : v.height ≤ 130 <;> simp [tagEntry, variantTagOf, chosen, fits, Except.toOption]
  rw [tagged] at gives
  by_cases fits : v.height ≤ 130
  · rw [if_pos fits, Option.bind_some, decodeTree_toOption variant .buffered] at gives
    rw [if_pos fits]
    rwa [foldlM_fieldEntry_single] at gives
  · rw [if_neg fits, Option.bind_none] at gives
    rw [if_neg fits]
    exact gives

end OptionValue

namespace Event

open Walk

/-- The outcome of the option update reader's step over one entry, a value read with outcome
`valueOf`: the name and the value are each read once, any other entry is passed over. -/
def optionUpdateEntry (valueOf : Json → Option OptionValue) (acc : Option String × Option OptionValue)
    (e : String × Json) : Option (Option String × Option OptionValue) :=
  if e.1 = "name" then
    (if acc.1.isSome then none
    else (e.2.scalar?.bind fun s => (JsonSource.acceptString "a string" s).toOption).map some).map
      fun name => (name, acc.2)
  else if e.1 = "value" then
    (if acc.2.isSome then none else (valueOf e.2).map some).map fun value => (acc.1, value)
  else some acc

/-- An option update given as a map: its entries are folded for the name and the value, which
must both be there. -/
theorem readOptionUpdate_object (valueOf : Json → Option OptionValue) (entries : List (String × Json))
    (values : ∀ e ∈ entries, e.1 = "value" →
      Gives (OptionValue.read : Walk OptionValue) e.2 (valueOf e.2)) :
    Gives readOptionUpdate (.object entries)
      ((entries.foldlM (optionUpdateEntry valueOf) (none, none)).bind fun found =>
        found.1.bind fun name => found.2.bind fun value => some (name, value)) := by
  unfold readOptionUpdate JsonSource.record
  simp only [value_eq]
  apply Gives.valueRequest_object
  apply Drains.bind
  · apply foldEntries_drains
    intro acc e mem
    obtain ⟨name?, value?⟩ := acc
    dsimp only
    by_cases isName : e.1 = "name"
    · -- the name, read once as a string
      have text : Gives (JsonSource.string : Walk String) e.2
          (e.2.scalar?.bind fun s => (JsonSource.acceptString "a string" s).toOption) :=
        Gives.scalar e.2
      rw [if_pos isName]
      simp only [optionUpdateEntry, if_pos isName]
      rw [Option.map_eq_bind (f := fun name => (name, value?))]
      exact (Gives.fieldOnce text name? e.1).bind fun name _ => Runs.pure (name, value?)
    · rw [if_neg isName]
      by_cases isValue : e.1 = "value"
      · -- the value, read once by the option value reader
        rw [if_pos isValue]
        simp only [optionUpdateEntry, if_neg isName, if_pos isValue]
        rw [Option.map_eq_bind (f := fun value => (name?, value))]
        exact (Gives.fieldOnce (values e mem isValue) value? e.1).bind fun value _ =>
          Runs.pure (name?, value)
      · -- any other entry, passed over
        rw [if_neg isValue]
        simp only [optionUpdateEntry, if_neg isName, if_neg isValue]
        exact (Gives.skip e.2).bind fun _ _ => Runs.pure (name?, value?)
  · intro found
    exact (Runs.required found.1 "name").bind fun name _ =>
      (Runs.required found.2 "value").bind fun value _ => Runs.pure (name, value)

theorem readParsed_eq_ok {α : Type} {value : Json} {body : Walk α} {a : α} :
    readParsed value body = .ok a ↔ Json.decodeTree .parsed value body = .ok a := by
  unfold readParsed
  split <;> simp_all

theorem map_eq_ok {α : Type} {f : α → Event} {read : Except WireError α} {event : Event} :
    f <$> read = .ok event ↔ ∃ value, read = .ok value ∧ event = f value := by
  constructor
  · exact eq_of_map_ok
  · rintro ⟨value, rfl, rfl⟩
    rfl

/-- Over every value `v`, an option update whose value is an integer option holding `v` is read
exactly when `v` is written as a 64-bit integer, and then as the update to that integer. -/
theorem ofJson_integer_option (name : String) (v : Json) (event : Event) :
    ofJson (.object [("@type", .string "updateOption"), ("name", .string name),
      ("value", .object [("@type", .string "optionValueInteger"), ("value", v)])]) = .ok event ↔
    ∃ n, Wide.Written v n ∧ event = optionUpdate name (.integer n) := by
  have tagged : (Json.object [("@type", .string "updateOption"), ("name", .string name),
      ("value", .object [("@type", .string "optionValueInteger"), ("value", v)])]).get? "@type" =
      some (.string "updateOption") := rfl
  unfold ofJson
  rw [tagged]
  dsimp only
  rw [if_neg (show ¬("updateOption" = "updateAuthorizationState") by decide), if_pos rfl, map_eq_ok]
  -- the value entry is the integer option, read by the option value reader
  have gives := readOptionUpdate_object
    (fun _ => if v.height ≤ 130 then
      (v.scalar?.bind fun s => (Wide.accept s).toOption).map OptionValue.integer else none)
    [("@type", .string "updateOption"), ("name", .string name),
      ("value", .object [("@type", .string "optionValueInteger"), ("value", v)])]
    (by
      intro e mem isValue
      simp only [List.mem_cons, List.not_mem_nil, or_false] at mem
      rcases mem with rfl | rfl | rfl
      · exact absurd isValue (by decide)
      · exact absurd isValue (show ¬("name" : String) = "value" by decide)
      · exact OptionValue.read_integer v)
  generalize read : (v.scalar?.bind fun s => (Wide.accept s).toOption) = o at gives
  -- the tag is passed over, the name read, and the value is the option's outcome
  have folded : ([("@type", Json.string "updateOption"), ("name", .string name),
      ("value", .object [("@type", .string "optionValueInteger"), ("value", v)])].foldlM
        (optionUpdateEntry fun _ => if v.height ≤ 130 then o.map OptionValue.integer else none)
        (none, none)).bind
          (fun found => found.1.bind fun name => found.2.bind fun value => some (name, value)) =
      (if v.height ≤ 130 then o.map OptionValue.integer else none).map fun value => (name, value) := by
    have apart : ¬("@type" : String) = "name" ∧ ¬("@type" : String) = "value" ∧
        ¬("name" : String) = "value" := by decide
    by_cases fits : v.height ≤ 130 <;> cases o <;>
      simp [optionUpdateEntry, fits, apart, Json.scalar?, JsonSource.acceptString, Except.toOption]
  simp only [readParsed_eq_ok, Walk.decodeTree_eq_ok gives, folded]
  constructor
  · rintro ⟨_, found, rfl⟩
    split at found
    · obtain ⟨value, mapped, rfl⟩ := Option.map_eq_some_iff.1 found
      obtain ⟨n, held, rfl⟩ := Option.map_eq_some_iff.1 mapped
      exact ⟨n, (Wide.outcome_eq_some v n).1 (read ▸ held), rfl⟩
    · cases found
  · rintro ⟨n, written, rfl⟩
    refine ⟨(name, .integer n), ?_, rfl⟩
    rw [if_pos (by rw [written.height]; decide), ← read, (Wide.outcome_eq_some v n).2 written]
    rfl

end Event

namespace Wide

open Scan Json

end Wide

end Switchboard
