import Switchboard.Proofs.HumanDurations
import Switchboard.Bus.Policy

/-!
# Policies in text form

What reading a policy accepts is said by `OverflowPolicy.Names`, of the text with the white space
at its ends trimmed: the prefix of a bounded wait, `block_for:`, exactly as written, followed by a
bound in human form; or the name of one of the other three policies, in any ASCII case
(`OverflowPolicy.parse_eq_ok_iff`). White space around a text is no part of what it says
(`OverflowPolicy.parse_padded`), and texts that differ only in the case of a plain name read
alike (`OverflowPolicy.parse_congr_lower`). The prefix of a bounded wait is the exception: in
capitals it names nothing.

The text form of a policy reads back to it, whenever its bound, if it has one, has whole seconds
that fit in 64 bits (`OverflowPolicy.parse_text`). Every policy read from a text is such a
policy, so the text form is a normal form (`OverflowPolicy.parse_text_of_parse`).
-/

namespace Switchboard

namespace Text

/-- A text with no white space at either end. -/
def Trimmed (text : String) : Prop :=
  (∀ c ∈ text.toList.head?, isBlank c = false) ∧ (∀ c ∈ text.toList.getLast?, isBlank c = false)

/-- A text with its ASCII capitals made small. -/
def lower (text : String) : String := String.ofList (text.toList.map Char.toLower)

theorem dropWhile_blank_of_head {chars : List Char} (solid : ∀ c ∈ chars.head?, isBlank c = false) :
    chars.dropWhile isBlank = chars := by
  cases chars with
  | nil => rfl
  | cons c chars => exact List.dropWhile_cons_of_neg (by simpa using solid)

theorem trim_of_trimmed {text : String} (trimmed : Trimmed text) : trim text = text := by
  have last : ∀ c ∈ text.toList.reverse.head?, isBlank c = false := by
    rw [List.head?_reverse]
    exact trimmed.2
  rw [trim, dropWhile_blank_of_head trimmed.1, dropWhile_blank_of_head last, List.reverse_reverse,
    String.ofList_toList]

/-- White space around a text plays no part in trimming it. -/
theorem trim_padded {pad pad' : String} (blank : ∀ c ∈ pad.toList, isBlank c = true)
    (blank' : ∀ c ∈ pad'.toList, isBlank c = true) (text : String) :
    trim (pad ++ text ++ pad') = trim text := by
  unfold trim
  congr 1
  rw [String.toList_append, String.toList_append, List.append_assoc,
    List.dropWhile_append_of_pos blank, List.dropWhile_append]
  split
  · -- nothing but white space: both sides trim to nothing
    rename_i empty
    rw [List.isEmpty_iff.1 empty, ← List.append_nil pad'.toList, List.dropWhile_append_of_pos blank']
    rfl
  · rw [List.reverse_append, List.dropWhile_append_of_pos (by simpa using blank')]

theorem isBlank_of_isDigit {c : Char} (digit : c.isDigit = true) : isBlank c = false := by
  have bounds := Char.isDigit_iff_toNat.1 digit
  simp only [Char.reduceToNat] at bounds
  simp only [isBlank, Bool.or_eq_false_iff, Bool.and_eq_false_iff, decide_eq_false_iff_not,
    beq_eq_false_iff_ne]
  omega

end Text

namespace Human

theorem getLast?_append_of_ne_nil {α : Type} {l l' : List α} (nonempty : l' ≠ []) :
    (l ++ l').getLast? = l'.getLast? := by
  rw [List.getLast?_append]
  cases last : l'.getLast? with
  | none => exact absurd (List.getLast?_eq_none_iff.1 last) nonempty
  | some x => rfl

theorem toList_toString_ne_nil (n : Nat) : (toString n).toList ≠ [] := by
  rw [Nat.toString_eq_ofList_toDigits, String.toList_ofList]
  exact Nat.toDigits_ne_nil

/-- Items separated by single spaces start with the first digit of the first count. -/
theorem head?_items (p : Nat × String) (ps : List (Nat × String)) :
    (" ".intercalate ((p :: ps).map itemText)).toList.head? = (toString p.1).toList.head? := by
  obtain ⟨c, cs, first⟩ := List.exists_cons_of_ne_nil (toList_toString_ne_nil p.1)
  cases ps with
  | nil =>
    rw [List.map_cons, List.map_nil, String.intercalate_singleton, itemText, String.toList_append,
      first]
    rfl
  | cons q ps =>
    rw [List.map_cons, String.intercalate_cons_of_ne_nil (by simp), itemText, String.toList_append,
      String.toList_append, String.toList_append, first]
    rfl

theorem toList_items_ne_nil (p : Nat × String) (ps : List (Nat × String)) :
    (" ".intercalate ((p :: ps).map itemText)).toList ≠ [] := by
  intro empty
  have first := head?_items p ps
  rw [empty, List.head?_nil, eq_comm, List.head?_eq_none_iff] at first
  exact toList_toString_ne_nil p.1 first

/-- Items separated by single spaces end with the last character of the last unit. -/
theorem getLast?_items : ∀ (p : Nat × String) (ps : List (Nat × String)),
    (∀ q ∈ p :: ps, Spelled q.2) →
    ∀ c ∈ (" ".intercalate ((p :: ps).map itemText)).toList.getLast?, isUnitChar c = true
  | p, [], spelled => by
    obtain ⟨nonempty, named⟩ := spelled p List.mem_cons_self
    intro c last
    rw [List.map_cons, List.map_nil, String.intercalate_singleton, itemText, String.toList_append,
      getLast?_append_of_ne_nil nonempty] at last
    exact named c (List.mem_of_getLast? last)
  | p, q :: ps, spelled => by
    intro c last
    rw [List.map_cons, String.intercalate_cons_of_ne_nil (by simp), String.toList_append,
      getLast?_append_of_ne_nil (toList_items_ne_nil q ps)] at last
    exact getLast?_items q ps (fun r mem => spelled r (List.mem_cons_of_mem _ mem)) c last

/-- The written form of a duration has no white space at its ends: it starts with a digit and
ends with a unit. -/
theorem format_trimmed (d : Duration) (fits : d.Fits) : Text.Trimmed (format d) := by
  obtain ⟨p, ps, written⟩ := List.exists_cons_of_ne_nil (writtenPieces_ne_nil d)
  have valid := writtenPieces_valid d fits
  rw [written] at valid
  rw [format_eq, written]
  refine ⟨?_, fun c last => (isUnitChar_apart
    (getLast?_items p ps (fun q mem => (valid q mem).2.1) c last)).2⟩
  rw [head?_items]
  intro c first
  rw [Nat.toString_eq_ofList_toDigits, String.toList_ofList] at first
  exact Text.isBlank_of_isDigit
    (Nat.isDigit_of_mem_toDigits (by decide) (by decide) (List.mem_of_head? first))

end Human

namespace OverflowPolicy

/-- A policy whose bound, if it has one, has whole seconds that fit in 64 bits. -/
def Fits : OverflowPolicy → Prop
  | blockFor bound => bound.Fits
  | _ => True

instance : DecidablePred Fits
  | blockFor bound => inferInstanceAs (Decidable bound.Fits)
  | block | dropOldest | disconnect => isTrue trivial

/-- What a text with no white space at its ends names: a bounded wait after the exact prefix,
with the bound after it read in human form once trimmed, or another policy by its text form in
any ASCII case. -/
def Names (trimmed : String) : OverflowPolicy → Prop
  | blockFor d => ∃ bound, trimmed = boundPrefix ++ bound ∧ Human.parse (Text.trim bound) = .ok d
  | p => Text.lower trimmed = p.text

theorem startsWith_boundPrefix {text : String} :
    text.startsWith boundPrefix = true ↔ ∃ bound, text = boundPrefix ++ bound := by
  rw [String.startsWith_string_iff]
  constructor
  · rintro ⟨rest, split⟩
    refine ⟨String.ofList rest, String.toList_inj.1 ?_⟩
    rw [← split, String.toList_append, String.toList_ofList]
  · rintro ⟨bound, rfl⟩
    rw [String.toList_append]
    exact List.prefix_append _ _

theorem startsWith_boundPrefix_eq_false {text : String}
    (apart : ¬boundPrefix.toList <+: text.toList) : text.startsWith boundPrefix = false := by
  rw [Bool.eq_false_iff, ne_eq, String.startsWith_string_iff]
  exact apart

/-- The text after the prefix of a bounded wait. -/
theorem drop_boundPrefix (bound : String) :
    String.ofList ((boundPrefix ++ bound).toList.drop boundPrefix.length) = bound := by
  have length : boundPrefix.length = boundPrefix.toList.length := rfl
  rw [String.toList_append, length, List.drop_left, String.ofList_toList]

/-- The prefix of a bounded wait is all small already, so no plain name lowers to a text with
it. -/
theorem lower_boundPrefix_ne {bound : String} {p : OverflowPolicy} (plain : ∀ d, p ≠ blockFor d) :
    Text.lower (boundPrefix ++ bound) ≠ p.text := by
  intro same
  have lowered := congrArg (fun text : String => text.toList.take 10) same
  simp only [Text.lower, String.toList_ofList, String.toList_append, List.map_append] at lowered
  have small : boundPrefix.toList.map Char.toLower = boundPrefix.toList := by
    simp [boundPrefix]
  rw [small, List.take_left' (by rfl)] at lowered
  cases p with
  | blockFor d => exact plain d rfl
  | block => simp [boundPrefix, text] at lowered
  | dropOldest => simp [boundPrefix, text] at lowered
  | disconnect => simp [boundPrefix, text] at lowered

/-- A text reads as a policy exactly when, trimmed, it names that policy. -/
theorem parse_eq_ok_iff (text : String) (p : OverflowPolicy) :
    parse text = .ok p ↔ Names (Text.trim text) p := by
  unfold parse
  by_cases bounded : (Text.trim text).startsWith boundPrefix = true
  · -- the bound after the prefix decides, and no plain name can match
    obtain ⟨bound, split⟩ := startsWith_boundPrefix.1 bounded
    simp only [bounded, ↓reduceIte]
    rw [split, drop_boundPrefix]
    cases p with
    | blockFor d =>
      constructor
      · intro read
        refine ⟨bound, rfl, ?_⟩
        split at read
        · rename_i found
          cases read
          exact found
        · cases read
      · rintro ⟨bound', same, read⟩
        rw [(String.append_right_inj _).1 same, read]
    | block | dropOldest | disconnect =>
      refine ⟨fun read => ?_, fun named => absurd named (lower_boundPrefix_ne (by simp))⟩
      split at read <;> cases read
  · -- no bounded wait: the lowered text is compared with the three names in turn
    have unprefixed : ∀ bound, Text.trim text ≠ boundPrefix ++ bound := fun bound split =>
      bounded (startsWith_boundPrefix.2 ⟨bound, split⟩)
    simp only [bounded, Bool.false_eq_true, ↓reduceIte]
    have lowered : String.ofList ((Text.trim text).toList.map Char.toLower) =
        Text.lower (Text.trim text) := rfl
    rw [lowered]
    by_cases block : Text.lower (Text.trim text) = "block"
    · cases p <;> simp [block, Names, OverflowPolicy.text, unprefixed]
    by_cases dropOldest : Text.lower (Text.trim text) = "drop_oldest"
    · cases p <;> simp [dropOldest, Names, OverflowPolicy.text, unprefixed]
    by_cases disconnect : Text.lower (Text.trim text) = "disconnect"
    · cases p <;> simp [disconnect, Names, OverflowPolicy.text, unprefixed]
    · cases p <;> simp [block, dropOldest, disconnect, Names, OverflowPolicy.text, unprefixed]

/-- White space around a text changes nothing in how it reads. -/
theorem parse_padded {pad pad' : String} (blank : ∀ c ∈ pad.toList, Text.isBlank c = true)
    (blank' : ∀ c ∈ pad'.toList, Text.isBlank c = true) (text : String) :
    parse (pad ++ text ++ pad') = parse text := by
  simp only [parse, Text.trim_padded blank blank']

/-- Texts that, trimmed, differ only in ASCII case read alike, unless one of them starts with the
prefix of a bounded wait. -/
theorem parse_congr_lower {text text' : String}
    (same : Text.lower (Text.trim text) = Text.lower (Text.trim text'))
    (plain : (Text.trim text).startsWith boundPrefix = false)
    (plain' : (Text.trim text').startsWith boundPrefix = false) (p : OverflowPolicy) :
    parse text = .ok p ↔ parse text' = .ok p := by
  rw [parse_eq_ok_iff, parse_eq_ok_iff]
  cases p with
  | blockFor d =>
    constructor <;> rintro ⟨bound, split, _⟩
    · simp [startsWith_boundPrefix.2 ⟨bound, split⟩] at plain
    · simp [startsWith_boundPrefix.2 ⟨bound, split⟩] at plain'
  | block | dropOldest | disconnect => simp only [Names, same]

/-- The text form of a policy reads back to it, when its bound fits. -/
theorem parse_text {p : OverflowPolicy} (fits : p.Fits) : parse p.text = .ok p := by
  rw [parse_eq_ok_iff]
  cases p with
  | blockFor d =>
    have trimmed := Human.format_trimmed d fits
    have nonempty : (Human.format d).toList ≠ [] := by
      rw [Human.format_eq]
      obtain ⟨p, ps, written⟩ := List.exists_cons_of_ne_nil (Human.writtenPieces_ne_nil d)
      rw [written]
      exact Human.toList_items_ne_nil p ps
    have bounded : Text.Trimmed (boundPrefix ++ Human.format d) := by
      refine ⟨by simp [boundPrefix, Text.isBlank], ?_⟩
      rw [String.toList_append, Human.getLast?_append_of_ne_nil nonempty]
      exact trimmed.2
    refine ⟨Human.format d, Text.trim_of_trimmed bounded, ?_⟩
    rw [Text.trim_of_trimmed trimmed]
    exact Human.parse_format d fits
  | block | dropOldest | disconnect =>
    simp only [Names, OverflowPolicy.text]
    decide

/-- Every policy read from a text has a bound that fits, if it has one. -/
theorem Fits.of_parse {text : String} {p : OverflowPolicy} (read : parse text = .ok p) : p.Fits := by
  cases p with
  | blockFor d =>
    obtain ⟨bound, _, bounded⟩ := (parse_eq_ok_iff text _).1 read
    exact Duration.Fits.of_parse bounded
  | block | dropOldest | disconnect => trivial

/-- A text that reads as a policy reads as one whose text form reads back to it: the text form is
a normal form. -/
theorem parse_text_of_parse {text : String} {p : OverflowPolicy} (read : parse text = .ok p) :
    parse p.text = .ok p :=
  parse_text (Fits.of_parse read)

/-- A text padded with white space reads as the text itself; and texts whose trimmed forms differ
only in ASCII case read as the same policy, or both fail, when neither starts with the prefix of a
bounded wait, which is compared exactly as written. -/
theorem parse_ignores_padding_and_plain_name_case (pad text pad' text' : String)
    (blank : ∀ c ∈ pad.toList ++ pad'.toList, Text.isBlank c = true)
    (same : Text.lower (Text.trim text) = Text.lower (Text.trim text'))
    (plain : (Text.trim text).startsWith boundPrefix = false)
    (plain' : (Text.trim text').startsWith boundPrefix = false) :
    parse (pad ++ text ++ pad') = parse text ∧
      ∀ p, parse (pad ++ text ++ pad') = .ok p ↔ parse text' = .ok p := by
  have padded := parse_padded (fun c mem => blank c (List.mem_append_left _ mem))
    (fun c mem => blank c (List.mem_append_right _ mem)) text
  refine ⟨padded, fun p => ?_⟩
  rw [padded]
  exact parse_congr_lower same plain plain' p

/-- A plain name in mixed case with white space around it, and the same name in capitals. -/
theorem parse_ignores_padding_and_plain_name_case_of_drop_oldest :
    parse (" " ++ "Drop_Oldest" ++ "\n") = parse "Drop_Oldest" ∧
      ∀ p, parse (" " ++ "Drop_Oldest" ++ "\n") = .ok p ↔ parse "DROP_OLDEST" = .ok p := by
  have trimmed : Text.trim "Drop_Oldest" = "Drop_Oldest" := by decide
  have trimmed' : Text.trim "DROP_OLDEST" = "DROP_OLDEST" := by decide
  exact parse_ignores_padding_and_plain_name_case " " "Drop_Oldest" "\n" "DROP_OLDEST"
    (by simp [Text.isBlank]) (by rw [trimmed, trimmed']; decide)
    (by rw [trimmed]; exact startsWith_boundPrefix_eq_false (by simp [boundPrefix]))
    (by rw [trimmed']; exact startsWith_boundPrefix_eq_false (by simp [boundPrefix]))

/-- The prefix of a bounded wait in capitals names no policy. -/
theorem capital_boundPrefix_is_unknown :
    parse "block_for:250ms" = .ok (blockFor ⟨250000000⟩) ∧
      parse "BLOCK_FOR:250ms" = .error (.unknown "BLOCK_FOR:250ms") := by
  have written : (blockFor ⟨250000000⟩).text = "block_for:250ms" := by decide
  have trimmed : Text.trim "BLOCK_FOR:250ms" = "BLOCK_FOR:250ms" := by decide
  have unbounded : "BLOCK_FOR:250ms".startsWith boundPrefix = false :=
    startsWith_boundPrefix_eq_false (by simp [boundPrefix])
  refine ⟨written ▸ parse_text (by decide), ?_⟩
  simp [parse, trimmed, unbounded]

end OverflowPolicy

end Switchboard
