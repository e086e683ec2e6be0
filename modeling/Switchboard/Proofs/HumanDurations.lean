import Mathlib
import Switchboard.Time.Human

/-!
# Reading the human form back

The human form of a duration reads back to the same duration, for every duration whose whole
seconds fit in 64 bits (`Human.parse_format`); every duration read from a text is one of them
(`Duration.Fits.of_parse`).

Reading follows the text one character at a time. A count written in decimal followed by the
spelling of a unit is an item; the items of a text separated by single spaces are added to the
total one after the other, as `addPiece` adds them (`run_pieces`). The written form is such a
text, whose items add up to the duration (`foldlM_writtenPieces`).
-/

namespace Switchboard

/-- A duration whose whole seconds fit in 64 bits. -/
def Duration.Fits (d : Duration) : Prop := d.seconds < Human.numberLimit

theorem Human.numberLimit_eq : Human.numberLimit = 2 ^ 64 := rfl

instance (d : Duration) : Decidable d.Fits := inferInstanceAs (Decidable (_ < _))

namespace Human

/-! ## Reading one character -/

/-- The spelling of a unit as it is written: at least one character, each one that may be
part of a unit. -/
def Spelled (spelling : String) : Prop :=
  spelling.toList ≠ [] ∧ ∀ c ∈ spelling.toList, isUnitChar c = true

/-- A character of a unit is neither a digit nor white space. -/
theorem isUnitChar_apart {c : Char} (named : isUnitChar c = true) :
    c.isDigit = false ∧ Text.isBlank c = false := by
  have letter : (97 ≤ c.toNat ∧ c.toNat ≤ 122) ∨ (65 ≤ c.toNat ∧ c.toNat ≤ 90) ∨ c.toNat = 181 := by
    simp only [isUnitChar, Bool.or_eq_true, Bool.and_eq_true, decide_eq_true_eq, beq_iff_eq,
      Char.le_def, UInt32.le_iff_toNat_le] at named
    rcases named with (lower | upper) | micro
    · exact .inl lower
    · exact .inr (.inl upper)
    · subst micro
      exact .inr (.inr rfl)
  constructor
  · cases digit : c.isDigit
    · rfl
    · have bounds := Char.isDigit_iff_toNat.1 digit
      simp only [Char.reduceToNat] at bounds
      omega
  · simp only [Text.isBlank, Bool.or_eq_false_iff, Bool.and_eq_false_iff, decide_eq_false_iff_not,
      beq_eq_false_iff_ne]
    omega

section Steps

variable {phase phase' : Phase} {total total' : Total} {offset : Nat} {c : Char} {rest : List Char}

theorem run_of_step (h : step phase total offset c = .ok (phase', total')) :
    run phase total offset (c :: rest) = run phase' total' (offset + c.utf8Size) rest := by
  simp only [run, h]
  rfl

theorem step_first_digit (digit : c.isDigit = true) (start : Nat) (initial : Bool) :
    step (.first start initial) total offset c =
      .ok (.number (c.toNat - 48) none (offset + c.utf8Size), total) := by
  simp [step, digit]

theorem step_number_digit {value mark : Nat} (digit : c.isDigit = true)
    (fits : value * 10 + (c.toNat - 48) < numberLimit) :
    step (.number value none mark) total offset c =
      .ok (.number (value * 10 + (c.toNat - 48)) none (offset + c.utf8Size), total) := by
  have small : value * 10 < numberLimit := by omega
  simp [step, digit, pushDigit, times, plus, small, fits, bind, Except.bind]

theorem step_number_unit {value mark : Nat} (named : isUnitChar c = true) :
    step (.number value none mark) total offset c = .ok (.unit value none mark [c], total) := by
  obtain ⟨notDigit, notBlank⟩ := isUnitChar_apart named
  simp [step, named, notDigit, notBlank]

theorem step_unit_unit {value start : Nat} {spelling : List Char} (named : isUnitChar c = true) :
    step (.unit value none start spelling) total offset c =
      .ok (.unit value none start (spelling ++ [c]), total) := by
  obtain ⟨notDigit, notBlank⟩ := isUnitChar_apart named
  simp [step, named, notDigit, notBlank]

/-- A space ends the unit being read: the item is added to the total. -/
theorem run_unit_space {value start : Nat} {spelling : List Char} :
    run (.unit value none start spelling) total offset (' ' :: rest) =
      addItem total value none start spelling >>= fun total =>
        run (.first (offset + 1) false) total (offset + 1) rest := by
  have notDigit : ' '.isDigit = false := by decide
  have blank : Text.isBlank ' ' = true := by decide
  have size : ' '.utf8Size = 1 := by decide
  simp only [run, step, notDigit, blank, size, Bool.false_eq_true, ↓reduceIte]
  cases addItem total value none start spelling <;> rfl

/-- Where an item has no fraction, the place of its unit plays no part in adding it. -/
theorem addItem_start {value start : Nat} {spelling : List Char} :
    addItem total value none start spelling = addItem total value none 0 spelling := rfl

end Steps

/-! ## Reading an item -/

section Items

variable (total : Total) (rest : List Char)

/-- Digits read into the number being read, none of them taking it past 64 bits. -/
theorem run_digits : ∀ (digits : List Char) (value mark offset : Nat),
    (∀ c ∈ digits, c.isDigit = true) → Nat.ofDigitChars 10 digits value < numberLimit →
    ∃ mark' offset', run (.number value none mark) total offset (digits ++ rest) =
      run (.number (Nat.ofDigitChars 10 digits value) none mark') total offset' rest
  | [], value, mark, offset, _, _ => ⟨mark, offset, rfl⟩
  | c :: digits, value, mark, offset, all, fits => by
    have digit := all c List.mem_cons_self
    -- the number read so far never exceeds the whole number
    have grows : value * 10 + (c.toNat - 48) ≤ Nat.ofDigitChars 10 (c :: digits) value := by
      rw [Nat.ofDigitChars_cons, Nat.ofDigitChars_eq_ofDigitChars_zero]
      have scaled := Nat.le_mul_of_pos_left (10 * value + (c.toNat - '0'.toNat))
        (Nat.pow_pos (n := digits.length) (show 0 < 10 by decide))
      simp only [Char.reduceToNat] at scaled ⊢
      omega
    rw [List.cons_append, run_of_step (step_number_digit digit (by omega))]
    obtain ⟨mark', offset', later⟩ := run_digits digits (value * 10 + (c.toNat - 48)) _ _
      (fun c mem => all c (List.mem_cons_of_mem _ mem))
      (by rw [Nat.ofDigitChars_cons] at fits; simpa [Nat.mul_comm] using fits)
    refine ⟨mark', offset', ?_⟩
    rw [later, Nat.ofDigitChars_cons]
    simp [Nat.mul_comm]

/-- Unit characters are added to the spelling being read. -/
theorem run_unit_chars (value start : Nat) : ∀ (chars spelling : List Char) (offset : Nat),
    (∀ c ∈ chars, isUnitChar c = true) →
    ∃ offset', run (.unit value none start spelling) total offset (chars ++ rest) =
      run (.unit value none start (spelling ++ chars)) total offset' rest
  | [], spelling, offset, _ => ⟨offset, by simp⟩
  | c :: chars, spelling, offset, all => by
    rw [List.cons_append, run_of_step (step_unit_unit (all c List.mem_cons_self))]
    obtain ⟨offset', later⟩ := run_unit_chars value start chars (spelling ++ [c]) _
      fun c mem => all c (List.mem_cons_of_mem _ mem)
    exact ⟨offset', by rw [later, List.append_assoc, List.singleton_append]⟩

/-- From where an item may start, a count and the spelling of its unit are read up to the end
of the unit, adding nothing yet. -/
theorem run_count_unit {count : Nat} {spelling : String} (fits : count < numberLimit)
    (spelled : Spelled spelling) (start : Nat) (initial : Bool) (offset : Nat) :
    ∃ mark offset', run (.first start initial) total offset
        ((toString count).toList ++ spelling.toList ++ rest) =
      run (.unit count none mark spelling.toList) total offset' rest := by
  obtain ⟨d, ds, digits⟩ : ∃ d ds, Nat.toDigits 10 count = d :: ds :=
    List.exists_cons_of_ne_nil Nat.toDigits_ne_nil
  have isDigit : ∀ c ∈ d :: ds, c.isDigit = true := fun c mem =>
    Nat.isDigit_of_mem_toDigits (by decide) (by decide) (digits ▸ mem)
  have value : Nat.ofDigitChars 10 ds (d.toNat - 48) = count := by
    have whole := @Nat.ofDigitChars_ten_toDigits count
    rw [digits, Nat.ofDigitChars_cons] at whole
    simpa using whole
  obtain ⟨u, us, spelledAs⟩ := List.exists_cons_of_ne_nil spelled.1
  have units : ∀ c ∈ u :: us, isUnitChar c = true := fun c mem => spelled.2 c (spelledAs ▸ mem)
  rw [Nat.toString_eq_ofList_toDigits, String.toList_ofList, digits, spelledAs,
    List.cons_append, List.cons_append,
    run_of_step (step_first_digit (isDigit d List.mem_cons_self) start initial)]
  obtain ⟨mark, offset₁, numbered⟩ := run_digits total ((u :: us) ++ rest) ds
    (d.toNat - 48) _ _ (fun c mem => isDigit c (List.mem_cons_of_mem _ mem)) (value ▸ fits)
  rw [List.append_assoc, numbered, value, List.cons_append,
    run_of_step (step_number_unit (units u List.mem_cons_self))]
  obtain ⟨offset', spelt⟩ := run_unit_chars total rest count mark us [u] _
    fun c mem => units c (List.mem_cons_of_mem _ mem)
  exact ⟨mark, offset', by rw [spelt, List.singleton_append]⟩

/-- The text of an item: its count in decimal, then the spelling of its unit. -/
def itemText (p : Nat × String) : String := toString p.1 ++ p.2

/-- Adds an item to a total as reading it does. -/
def addPiece (total : Total) (p : Nat × String) : Except ParseError Total :=
  addItem total p.1 none 0 p.2.toList

/-- Items separated by single spaces are added to the total one after the other. The induction
is on the items after the first; each one starts where the space before it left the reader. -/
theorem run_pieces : ∀ (p : Nat × String) (ps : List (Nat × String)),
    (∀ q ∈ p :: ps, q.1 < numberLimit ∧ Spelled q.2) → ∀ (start : Nat) (initial : Bool)
    (total : Total) (offset : Nat),
    run (.first start initial) total offset (" ".intercalate ((p :: ps).map itemText)).toList =
      (p :: ps).foldlM addPiece total
  | p, [], valid, start, initial, total, offset => by
    obtain ⟨fits, spelled⟩ := valid p List.mem_cons_self
    obtain ⟨mark, offset', read⟩ := run_count_unit total [] fits spelled
      start initial offset
    simp only [List.map_cons, List.map_nil, String.intercalate_singleton, itemText,
      String.toList_append]
    rw [← List.append_nil (_ ++ _), read]
    simp [run, addPiece, addItem_start]
  | p, q :: ps, valid, start, initial, total, offset => by
    obtain ⟨fits, spelled⟩ := valid p List.mem_cons_self
    obtain ⟨mark, offset', read⟩ := run_count_unit total
      (' ' :: (" ".intercalate ((q :: ps).map itemText)).toList) fits spelled
      start initial offset
    have later := run_pieces q ps (fun r mem => valid r (List.mem_cons_of_mem _ mem))
    have first : itemText p = toString p.1 ++ p.2 := rfl
    have space : (" " : String).toList = [' '] := rfl
    rw [List.map_cons, String.intercalate_cons_of_ne_nil (by simp), first,
      String.toList_append, String.toList_append, String.toList_append, space, List.append_assoc,
      List.singleton_append, read, run_unit_space, addItem_start, List.foldlM_cons]
    simp only [later, addPiece]

end Items

/-! ## What the items add up to -/

/-- What `count` of a scale comes to, in whole seconds and nanoseconds. -/
def Scale.gain : Scale → Nat → Total
  | .nanos factor, count => { nanos := count * factor }
  | .seconds factor, count => { seconds := count * factor }

/-- What an item adds to a total: its count of the unit it spells, nothing for a spelling that
names no unit. -/
def pieceGain (p : Nat × String) : Total :=
  match unitOf? p.2 with
  | some unit => unit.whole.gain p.1
  | none => {}

theorem times_of_lt {a b : Nat} (fits : a * b < numberLimit) : times a b = .ok (a * b) :=
  if_pos fits

/-- Adding an item carries nothing when the nanoseconds stay within a second. -/
theorem Total.add_of_fine {total item : Total}
    (fits : total.seconds + item.seconds < numberLimit)
    (fine : total.nanos + item.nanos ≤ Duration.perSecond) :
    total.add item = .ok ⟨total.seconds + item.seconds, total.nanos + item.nanos⟩ := by
  have limit : Duration.perSecond < numberLimit := by decide
  have nanos : total.nanos + item.nanos < numberLimit := by omega
  have carry : ¬Duration.perSecond < total.nanos + item.nanos := Nat.not_lt.2 fine
  have seconds : item.seconds < numberLimit := by omega
  simp [Total.add, plus, nanos, carry, seconds, fits, bind, Except.bind, pure, Except.pure]

/-- An item of a known unit adds what it counts for, when the seconds stay within 64 bits and
the nanoseconds within a second. -/
theorem addPiece_eq {total : Total} {p : Nat × String} (named : (unitOf? p.2).isSome)
    (fits : total.seconds + (pieceGain p).seconds < numberLimit)
    (fine : total.nanos + (pieceGain p).nanos ≤ Duration.perSecond) :
    addPiece total p = .ok ⟨total.seconds + (pieceGain p).seconds, total.nanos + (pieceGain p).nanos⟩ := by
  obtain ⟨count, spelling⟩ := p
  obtain ⟨unit, known⟩ := Option.isSome_iff_exists.1 named
  have limit : Duration.perSecond < numberLimit := by decide
  simp only [pieceGain, known] at fits fine ⊢
  -- the count of the unit fits in 64 bits, and adding it carries nothing
  have counted : unit.whole.count count = .ok (unit.whole.gain count) := by
    cases whole : unit.whole with
    | nanos factor =>
      simp only [whole, Scale.gain] at fine
      rw [Scale.count, times_of_lt (by omega)]
      rfl
    | seconds factor =>
      simp only [whole, Scale.gain] at fits
      rw [Scale.count, times_of_lt (by omega)]
      rfl
  simp only [addPiece, addItem, String.ofList_toList, known]
  rw [if_neg (by simp), counted]
  exact Total.add_of_fine fits fine

/-- Items of known units add up their gains, when the seconds stay within 64 bits and the
nanoseconds within a second. -/
theorem foldlM_addPiece : ∀ (ps : List (Nat × String)) (total : Total),
    (∀ p ∈ ps, (unitOf? p.2).isSome) →
    total.seconds + (ps.map fun p => (pieceGain p).seconds).sum < numberLimit →
    total.nanos + (ps.map fun p => (pieceGain p).nanos).sum ≤ Duration.perSecond →
    ps.foldlM addPiece total = .ok ⟨total.seconds + (ps.map fun p => (pieceGain p).seconds).sum,
      total.nanos + (ps.map fun p => (pieceGain p).nanos).sum⟩
  | [], total, _, _, _ => by simp [pure, Except.pure]
  | p :: ps, total, named, fits, fine => by
    simp only [List.map_cons, List.sum_cons] at fits fine ⊢
    rw [List.foldlM_cons, addPiece_eq (named p List.mem_cons_self) (by omega) (by omega)]
    refine (foldlM_addPiece ps _ (fun q mem => named q (List.mem_cons_of_mem _ mem))
      (by simp only; omega) (by simp only; omega)).trans ?_
    simp only [Total.mk.injEq, Except.ok.injEq]
    omega

/-! ## The written form -/

/-- An item of the written form: a count and its unit, with a plural `s` where the unit takes
one and the count is more than one. -/
def piece (count : Nat) (unit : String) (plural : Bool) : Nat × String :=
  (count, unit ++ if plural ∧ count > 1 then "s" else "")

theorem item_eq (count : Nat) (unit : String) (plural : Bool) :
    item count unit plural = ([piece count unit plural].filter (·.1 ≠ 0)).map itemText := by
  unfold item piece
  by_cases zero : count = 0 <;> simp [zero, itemText, String.append_assoc]

/-- The items of the written form of a duration, zero counts included. -/
def formatPieces (d : Duration) : List (Nat × String) :=
  let secs := d.seconds
  let nanos := d.subsecNanos
  let yearRest := secs % 31557600
  let monthRest := yearRest % 2630016
  let daySecs := monthRest % 86400
  [piece (secs / 31557600) "year" true, piece (yearRest / 2630016) "month" true,
    piece (monthRest / 86400) "day" true, piece (daySecs / 3600) "h" false,
    piece (daySecs % 3600 / 60) "m" false, piece (daySecs % 60) "s" false,
    piece (nanos / 1000000) "ms" false, piece (nanos / 1000 % 1000) "us" false,
    piece (nanos % 1000) "ns" false]

/-- The items written for a duration: its nonzero items, or a zero count of seconds. -/
def writtenPieces (d : Duration) : List (Nat × String) :=
  if d.nanos = 0 then [(0, "s")] else (formatPieces d).filter (·.1 ≠ 0)

theorem format_eq (d : Duration) : format d = " ".intercalate ((writtenPieces d).map itemText) := by
  unfold format writtenPieces
  by_cases zero : d.nanos = 0
  · simp only [zero, ↓reduceIte, List.map_cons, List.map_nil, String.intercalate_singleton]
    rfl
  · simp only [zero, ↓reduceIte, item_eq, ← List.map_append, ← List.filter_append]
    rfl

/-! ## What the written items add up to -/

/-- A unit written with or without its plural `s` is the same unit. -/
theorem pieceGain_piece {count : Nat} {unit : String} {plural : Bool}
    (same : unitOf? (unit ++ "s") = unitOf? unit) :
    pieceGain (piece count unit plural) = pieceGain (count, unit) := by
  have spelled : unitOf? (piece count unit plural).2 = unitOf? unit := by
    unfold piece
    split <;> simp [same]
  have counted : (piece count unit plural).1 = count := rfl
  simp only [pieceGain, spelled, counted]

theorem piece_single (count : Nat) (unit : String) : piece count unit false = (count, unit) := by
  simp [piece]

/-- An item of count zero gains nothing. -/
theorem pieceGain_zero (spelling : String) : pieceGain (0, spelling) = {} := by
  unfold pieceGain
  split
  · rename_i unit _
    cases unit.whole <;> simp [Scale.gain]
  · rfl

/-- Leaving out the items of count zero changes no sum of what the items gain. -/
theorem sum_filter_nonzero (f : Nat × String → Nat) (zero : ∀ spelling, f (0, spelling) = 0) :
    ∀ ps : List (Nat × String), ((ps.filter (·.1 ≠ 0)).map f).sum = (ps.map f).sum
  | [] => rfl
  | (count, spelling) :: ps => by
    have rest := sum_filter_nonzero f zero ps
    by_cases none : count = 0
    · subst none
      rw [List.filter_cons_of_neg (by simp), rest, List.map_cons, List.sum_cons, zero,
        Nat.zero_add]
    · rw [List.filter_cons_of_pos (by simpa using none), List.map_cons, List.map_cons,
        List.sum_cons, List.sum_cons, rest]

theorem formatPieces_gains (d : Duration) :
    (formatPieces d).map pieceGain =
      [{ seconds := d.seconds / 31557600 * 31557600 },
        { seconds := d.seconds % 31557600 / 2630016 * 2630016 },
        { seconds := d.seconds % 31557600 % 2630016 / 86400 * 86400 },
        { seconds := d.seconds % 31557600 % 2630016 % 86400 / 3600 * 3600 },
        { seconds := d.seconds % 31557600 % 2630016 % 86400 % 3600 / 60 * 60 },
        { seconds := d.seconds % 31557600 % 2630016 % 86400 % 60 },
        { nanos := d.subsecNanos / 1000000 * 1000000 },
        { nanos := d.subsecNanos / 1000 % 1000 * 1000 },
        { nanos := d.subsecNanos % 1000 }] := by
  have year : unitOf? ("year" ++ "s") = unitOf? "year" := by decide
  have month : unitOf? ("month" ++ "s") = unitOf? "month" := by decide
  have day : unitOf? ("day" ++ "s") = unitOf? "day" := by decide
  simp only [formatPieces, List.map_cons, List.map_nil, pieceGain_piece year,
    pieceGain_piece month, pieceGain_piece day, piece_single]
  simp [pieceGain, unitOf?, Scale.gain]

/-- The written items add up to the duration's whole seconds. -/
theorem formatPieces_seconds (d : Duration) :
    ((formatPieces d).map fun p => (pieceGain p).seconds).sum = d.seconds := by
  rw [show (fun p => (pieceGain p).seconds) = Total.seconds ∘ pieceGain from rfl, ← List.map_map,
    formatPieces_gains]
  -- rewriting the sum one item at a time keeps the kernel's check short
  simp only [List.map_cons, List.map_nil]
  repeat rw [List.sum_cons]
  rw [List.sum_nil]
  omega

/-- The written items add up to the duration's nanoseconds past its whole seconds. -/
theorem formatPieces_nanos (d : Duration) :
    ((formatPieces d).map fun p => (pieceGain p).nanos).sum = d.subsecNanos := by
  rw [show (fun p => (pieceGain p).nanos) = Total.nanos ∘ pieceGain from rfl, ← List.map_map,
    formatPieces_gains]
  -- rewriting the sum one item at a time keeps the kernel's check short
  simp only [List.map_cons, List.map_nil]
  repeat rw [List.sum_cons]
  rw [List.sum_nil]
  omega

/-! ## Reading the written form -/

/-- Every item of the written form spells a unit, and counts less than 64 bits hold. -/
theorem formatPieces_valid (d : Duration) (fits : d.Fits) :
    ∀ p ∈ formatPieces d, p.1 < numberLimit ∧ Spelled p.2 ∧ (unitOf? p.2).isSome := by
  have within : d.seconds < 18446744073709551616 := fits
  have fraction : d.subsecNanos < 1000000000 := Nat.mod_lt _ (by decide)
  -- a unit spelled with or without its plural `s`
  have plural : ∀ (unit : String) (count : Nat), Spelled unit → Spelled (unit ++ "s") →
      (unitOf? unit).isSome → (unitOf? (unit ++ "s")).isSome →
      Spelled (piece count unit true).2 ∧ (unitOf? (piece count unit true).2).isSome := by
    intro unit count one many named namedMany
    unfold piece
    split
    · exact ⟨many, namedMany⟩
    · simpa using ⟨one, named⟩
  have single : ∀ (unit : String) (count : Nat), Spelled unit → (unitOf? unit).isSome →
      Spelled (piece count unit false).2 ∧ (unitOf? (piece count unit false).2).isSome := by
    intro unit count one named
    simpa [piece_single] using ⟨one, named⟩
  simp only [formatPieces, List.mem_cons, List.not_mem_nil, or_false]
  rintro p (rfl | rfl | rfl | rfl | rfl | rfl | rfl | rfl | rfl) <;>
    refine ⟨by simp only [piece, numberLimit_eq]; omega, ?_⟩
  -- years, months and days take a plural `s`, the other units none
  · exact plural "year" _ (by simp [Spelled, isUnitChar]) (by simp [Spelled, isUnitChar])
      (by decide) (by decide)
  · exact plural "month" _ (by simp [Spelled, isUnitChar]) (by simp [Spelled, isUnitChar])
      (by decide) (by decide)
  · exact plural "day" _ (by simp [Spelled, isUnitChar]) (by simp [Spelled, isUnitChar])
      (by decide) (by decide)
  all_goals exact single _ _ (by simp [Spelled, isUnitChar]) (by decide)

/-- The items written for a duration spell units and count less than 64 bits hold. -/
theorem writtenPieces_valid (d : Duration) (fits : d.Fits) :
    ∀ p ∈ writtenPieces d, p.1 < numberLimit ∧ Spelled p.2 ∧ (unitOf? p.2).isSome := by
  unfold writtenPieces
  split
  · simp only [List.mem_singleton]
    rintro p rfl
    exact ⟨by decide, ⟨by simp, by simp [isUnitChar]⟩, by decide⟩
  · exact fun p mem => formatPieces_valid d fits p (List.mem_filter.1 mem).1

/-- The items written for a duration add up to its whole seconds and the nanoseconds past them. -/
theorem writtenPieces_sums (d : Duration) :
    ((writtenPieces d).map fun p => (pieceGain p).seconds).sum = d.seconds ∧
      ((writtenPieces d).map fun p => (pieceGain p).nanos).sum = d.subsecNanos := by
  unfold writtenPieces
  split
  · rename_i zero
    simp [pieceGain_zero, Duration.seconds, Duration.subsecNanos, zero]
  · rw [sum_filter_nonzero _ (fun spelling => by simp [pieceGain_zero]),
      sum_filter_nonzero _ (fun spelling => by simp [pieceGain_zero])]
    exact ⟨formatPieces_seconds d, formatPieces_nanos d⟩

/-- Something is written for every duration. -/
theorem writtenPieces_ne_nil (d : Duration) : writtenPieces d ≠ [] := by
  intro empty
  obtain ⟨seconds, nanos⟩ := writtenPieces_sums d
  unfold writtenPieces at empty
  split at empty
  · cases empty
  · rename_i nonzero
    rw [writtenPieces, if_neg nonzero, empty] at seconds nanos
    simp only [List.map_nil, List.sum_nil, Duration.seconds, Duration.subsecNanos,
      Duration.perSecond] at seconds nanos
    omega

/-- The items written for a duration add up, one after the other, to its whole seconds and the
nanoseconds past them. -/
theorem foldlM_writtenPieces (d : Duration) (fits : d.Fits) :
    (writtenPieces d).foldlM addPiece {} = .ok ⟨d.seconds, d.subsecNanos⟩ := by
  obtain ⟨seconds, nanos⟩ := writtenPieces_sums d
  have within : d.seconds < numberLimit := fits
  have fraction : d.subsecNanos < Duration.perSecond := Nat.mod_lt _ (by decide)
  have added := foldlM_addPiece (writtenPieces d) {}
    (fun p mem => (writtenPieces_valid d fits p mem).2.2)
    (by rw [seconds]; show 0 + d.seconds < numberLimit; omega)
    (by rw [nanos]; show 0 + d.subsecNanos ≤ Duration.perSecond; omega)
  simpa [seconds, nanos] using added

/-- A total has a duration exactly when its seconds, with the nanoseconds carried into them, fit
in 64 bits. -/
theorem Total.toDuration_eq_ok {total : Total} {d : Duration} :
    total.toDuration = .ok d ↔
      total.seconds + total.nanos / Duration.perSecond < numberLimit ∧
        d = ⟨total.seconds * Duration.perSecond + total.nanos⟩ := by
  unfold Total.toDuration plus
  by_cases fits : total.seconds + total.nanos / Duration.perSecond < numberLimit
  · simp [fits, bind, Except.bind, pure, Except.pure, eq_comm]
  · simp [fits, bind, Except.bind]

/-- Reading the written form adds up to the duration's whole seconds and the nanoseconds past
them. -/
theorem run_format (d : Duration) (fits : d.Fits) :
    run (.first 0 true) {} 0 (format d).toList = .ok ⟨d.seconds, d.subsecNanos⟩ := by
  obtain ⟨p, ps, written⟩ := List.exists_cons_of_ne_nil (writtenPieces_ne_nil d)
  have valid := writtenPieces_valid d fits
  rw [written] at valid
  rw [format_eq, written, run_pieces p ps (fun q mem => ⟨(valid q mem).1, (valid q mem).2.1⟩),
    ← written, foldlM_writtenPieces d fits]

/-- The human form of a duration whose whole seconds fit in 64 bits reads back to it. -/
theorem parse_format (d : Duration) (fits : d.Fits) : parse (format d) = .ok d := by
  have read := run_format d fits
  -- a lone `0` reads as the empty duration, but the written form is never that text
  have lone : run (.first 0 true) {} 0 "0".toList = .error (.unknownUnit "" 0) := by rfl
  have notLone : format d ≠ "0" := by
    intro same
    rw [same, lone] at read
    cases read
  have fraction : d.subsecNanos < Duration.perSecond := Nat.mod_lt _ (by decide)
  unfold parse
  rw [if_neg notLone, read]
  show Total.toDuration ⟨d.seconds, d.subsecNanos⟩ = .ok d
  refine Total.toDuration_eq_ok.2 ⟨?_, ?_⟩
  · show d.seconds + d.subsecNanos / Duration.perSecond < numberLimit
    rw [Nat.div_eq_of_lt fraction]
    exact fits
  · simp only [Duration.seconds, Duration.subsecNanos, Nat.div_add_mod']

end Human

/-- Every duration read from a text has whole seconds that fit in 64 bits. -/
theorem Duration.Fits.of_parse {text : String} {d : Duration} (read : Human.parse text = .ok d) :
    d.Fits := by
  unfold Human.parse at read
  split at read
  · cases read
    decide
  · cases ran : Human.run (.first 0 true) {} 0 text.toList with
    | error e => simp [ran, bind, Except.bind] at read
    | ok total =>
      simp only [ran, bind, Except.bind] at read
      obtain ⟨fits, rfl⟩ := Human.Total.toDuration_eq_ok.1 read
      simp only [Duration.Fits, Duration.seconds, Duration.perSecond, Human.numberLimit_eq]
        at fits ⊢
      omega

end Switchboard
