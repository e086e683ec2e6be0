import Switchboard.Proofs.ScalarReading

/-!
# The texts of numbers

Every number is printed as a JSON number: a minus sign or none, an integer part without leading
zeros, then a fraction and an exponent, each of which may be missing (`NumberText`). Integers are
their decimal digits; a float is its shortest digits laid out by `FloatLayout.json`, and those
digits are zero only with a zero exponent (`Decimal.shortest_digits`), which keeps the layout from
writing a leading zero (`layout_numberText`).

Passing over a value without decoding it passes over a number by its grammar alone, an integer
part, a fraction and an exponent (`skipNumber_integer`, `skipNumberTail_run`), so it stops right
after every printed number, floats included (`skipNumber_numberText`).
-/

namespace Switchboard

namespace Decimal

/-- Stripping trailing zeros keeps a multiplier that is not zero from becoming zero. -/
theorem stripZeros_ne_zero : ∀ (fuel : Nat) (acc : Nat × Nat), acc.1 ≠ 0 → (stripZeros fuel acc).1 ≠ 0 := by
  intro fuel
  induction fuel with
  | zero => intro acc nonzero; exact nonzero
  | succ fuel ih =>
      rintro ⟨digits, shift⟩ nonzero
      simp only [stripZeros]
      split
      · rename_i strip
        exact ih _ (by simp only; omega)
      · exact nonzero

/-- On any grid, the least multiplier inside an interval with a positive lower end is positive. -/
theorem least_pos {lower value upper den : Nat} (inclusive : Bool) (k : Int) (low : 0 < lower)
    (positive : 0 < den) : 0 < (onGrid lower value upper den inclusive k).least := by
  have scaleA : 0 < den * Nat.pow 10 k.toNat := Nat.mul_pos positive (Nat.pow_pos (by decide))
  have scaleB : 0 < Nat.pow 10 (-k).toNat := Nat.pow_pos (by decide)
  have lowNum : 0 < lower * Nat.pow 10 (-k).toNat := Nat.mul_pos low scaleB
  have ceiling : 0 < (lower * Nat.pow 10 (-k).toNat + den * Nat.pow 10 k.toNat - 1) /
      (den * Nat.pow 10 k.toNat) :=
    Nat.div_pos (by omega) scaleA
  simp only [onGrid]
  split <;> omega

/-- The digit search finds a positive multiplier, unless it gives up and keeps the exponent zero. -/
theorem searchDigits_digits {lower value upper den : Nat} (inclusive : Bool) (top : Int)
    (low : 0 < lower) (positive : 0 < den) :
    ∀ (fuel count : Nat), (searchDigits lower value upper den inclusive top fuel count).1 ≠ 0 ∨
      (searchDigits lower value upper den inclusive top fuel count).2 = 0 := by
  intro fuel
  induction fuel with
  | zero => intro count; exact .inr rfl
  | succ fuel ih =>
      intro count
      simp only [searchDigits]
      split
      · rename_i found
        left
        have least := @least_pos _ value upper _ inclusive (top - (count : Int) + 1) low positive
        apply stripZeros_ne_zero
        simp only
        omega
      · exact ih (count + 1)

/-- The shortest digits of a value other than zero are not zero, unless their exponent is zero. -/
theorem shortest_digits (b : Binary) (nonzero : b.significand ≠ 0) :
    (shortest b).1 ≠ 0 ∨ (shortest b).2 = 0 := by
  have up : 0 < Nat.pow 2 b.exponent.toNat := Nat.pow_pos (by decide)
  have low : 0 < (if b.narrowBelow then 4 * b.significand - 1 else 4 * b.significand - 2) *
      Nat.pow 2 b.exponent.toNat := by
    apply Nat.mul_pos _ up
    split <;> omega
  have den : 0 < 4 * Nat.pow 2 (-b.exponent).toNat :=
    Nat.mul_pos (by decide) (Nat.pow_pos (by decide))
  unfold shortest
  exact searchDigits_digits _ _ low den 17 1

end Decimal

namespace Json

/-- The integer part of a number: one digit, or more digits of which the first is not zero. -/
def WholePart (cs : List Char) : Prop :=
  ∃ d ds, cs = d :: ds ∧ d.isDigit ∧ (∀ c ∈ ds, c.isDigit) ∧ (ds ≠ [] → d ≠ '0')

/-- The fraction of a number: nothing, or a point and one digit or more. -/
def FractionPart (cs : List Char) : Prop :=
  cs = [] ∨ ∃ ds, cs = '.' :: ds ∧ ds ≠ [] ∧ ∀ c ∈ ds, c.isDigit

/-- The exponent of a number: nothing, or `e`, a sign or none, and one digit or more. -/
def ExponentPart (cs : List Char) : Prop :=
  cs = [] ∨ ∃ sign ds, cs = 'e' :: (sign ++ ds) ∧ (sign = [] ∨ sign = ['+'] ∨ sign = ['-']) ∧
    ds ≠ [] ∧ ∀ c ∈ ds, c.isDigit

/-- The text of a number without its sign, as JSON writes numbers: an integer part, then a
fraction and an exponent, each of which may be missing. -/
def NumberText (cs : List Char) : Prop :=
  ∃ whole fraction exponent, cs = whole ++ fraction ++ exponent ∧ WholePart whole ∧
    FractionPart fraction ∧ ExponentPart exponent

theorem isDigit_of_mem_toDigits {n : Nat} {c : Char} (mem : c ∈ Nat.toDigits 10 n) : c.isDigit :=
  Nat.isDigit_of_mem_toDigits (by decide) (by decide) mem

/-- The digits of a natural number: a zero alone, or digits without a leading zero. -/
theorem wholePart_toDigits (n : Nat) : WholePart (Nat.toDigits 10 n) := by
  rcases Nat.eq_zero_or_pos n with rfl | pos
  · exact ⟨'0', [], by rw [Nat.toDigits_zero], by decide, by simp, fun empty => absurd rfl empty⟩
  · obtain ⟨d, ds, digits, lead⟩ := Scan.toDigits_head_ne_zero n pos
    have all := fun c (mem : c ∈ Nat.toDigits 10 n) => isDigit_of_mem_toDigits mem
    rw [digits] at all
    exact ⟨d, ds, digits, all d List.mem_cons_self, fun c mem => all c (List.mem_cons_of_mem _ mem),
      fun _ => lead⟩

/-- A number's text starts with a digit. -/
theorem NumberText.head {cs : List Char} (number : NumberText cs) : ∃ d ds, cs = d :: ds ∧ d.isDigit := by
  obtain ⟨_, fs, es, rfl, ⟨d, ds, rfl, digit, -, -⟩, -, -⟩ := number
  exact ⟨d, ds ++ fs ++ es, by simp, digit⟩

theorem WholePart.numberText {cs : List Char} (whole : WholePart cs) : NumberText cs :=
  ⟨cs, [], [], by simp, whole, .inl rfl, .inl rfl⟩

/-- A mantissa, `e`, a sign and the digits of a natural number make a number's text. -/
theorem numberText_exponential {mantissa sign : String}
    (parts : ∃ whole fraction, mantissa.toList = whole ++ fraction ∧ WholePart whole ∧
      FractionPart fraction)
    (signed : sign.toList = ['-'] ∨ sign.toList = ['+']) (n : Nat) :
    NumberText (mantissa ++ "e" ++ sign ++ String.ofList (Nat.toDigits 10 n)).toList := by
  obtain ⟨whole, fraction, split, wholePart, fractionPart⟩ := parts
  refine ⟨whole, fraction, 'e' :: (sign.toList ++ Nat.toDigits 10 n), ?_, wholePart, fractionPart,
    .inr ⟨sign.toList, Nat.toDigits 10 n, rfl, ?_, Nat.toDigits_ne_nil,
      fun _ mem => isDigit_of_mem_toDigits mem⟩⟩
  · simp [split]
  · rcases signed with minus | plus
    · exact .inr (.inr minus)
    · exact .inr (.inl plus)

/-- Digits, zeros and `.0` make a number's text when the first digit leads. -/
theorem numberText_integral {d : Char} {ds : List Char} (digit : d.isDigit)
    (later : ∀ c ∈ ds, c.isDigit) (n : Nat) (lead : ds ≠ [] ∨ n ≠ 0 → d ≠ '0') :
    NumberText (String.ofList (d :: ds) ++ String.ofList (List.replicate n '0') ++ ".0").toList := by
  refine ⟨d :: (ds ++ List.replicate n '0'), ['.', '0'], [], by simp,
    ⟨d, _, rfl, digit, ?_, ?_⟩, .inr ⟨['0'], rfl, by simp, by simp⟩, .inl rfl⟩
  · intro c mem
    rcases List.mem_append.mp mem with mem | mem
    · exact later c mem
    · rw [List.eq_of_mem_replicate mem]
      rfl
  · intro more
    apply lead
    by_cases none : ds = []
    · subst none
      exact .inr (by simpa using more)
    · exact .inl none

/-- Digits with a point among them make a number's text when the first digit is not zero. -/
theorem numberText_fractional {d : Char} {ds : List Char} (digit : d.isDigit)
    (later : ∀ c ∈ ds, c.isDigit) (lead : d ≠ '0') {p : Nat} (inside : p < ds.length) :
    NumberText (String.ofList ((d :: ds).take (p + 1)) ++ "." ++
      String.ofList ((d :: ds).drop (p + 1))).toList := by
  refine ⟨d :: ds.take p, '.' :: ds.drop p, [], by simp, ⟨d, _, rfl, digit, ?_, fun _ => lead⟩,
    .inr ⟨_, rfl, by simpa using inside, ?_⟩, .inl rfl⟩
  · exact fun c mem => later c (List.mem_of_mem_take mem)
  · exact fun c mem => later c (List.mem_of_mem_drop mem)

/-- A zero, a point, zeros and digits make a number's text. -/
theorem numberText_small {d : Char} {ds : List Char} (digit : d.isDigit)
    (later : ∀ c ∈ ds, c.isDigit) (n : Nat) :
    NumberText ("0." ++ String.ofList (List.replicate n '0') ++ String.ofList (d :: ds)).toList := by
  refine ⟨['0'], '.' :: (List.replicate n '0' ++ d :: ds), [], by simp,
    ⟨'0', [], rfl, by decide, by simp, by simp⟩, .inr ⟨_, rfl, by simp, ?_⟩, .inl rfl⟩
  intro c mem
  rcases List.mem_append.mp mem with mem | mem
  · rw [List.eq_of_mem_replicate mem]
    rfl
  · rcases List.mem_cons.mp mem with rfl | mem
    · exact digit
    · exact later c mem

/-- The digits of a float as its layout writes them make a number's text, provided zero digits
come with no exponent. -/
theorem layout_numberText (digits : Nat) (k : Int) (lead : digits ≠ 0 ∨ k = 0) :
    NumberText (FloatLayout.json.layout digits k).toList := by
  obtain ⟨d, ds, spelled, digit, later, leading⟩ := wholePart_toDigits digits
  -- a number other than zero is spelled without a leading zero
  have first : digits ≠ 0 → d ≠ '0' := by
    intro nonzero
    obtain ⟨d', ds', spelled', lead'⟩ :=
      Scan.toDigits_head_ne_zero digits (Nat.pos_of_ne_zero nonzero)
    rw [spelled] at spelled'
    cases spelled'
    exact lead'
  simp only [FloatLayout.layout, FloatLayout.json, Nat.toString_eq_ofList_toDigits,
    String.length_ofList, String.toList_ofList, spelled, List.length_cons]
  split
  · -- the point after the digits and the zeros a positive exponent asks for
    apply numberText_integral digit later
    rintro (more | zeros)
    · exact leading more
    · exact first fun zero => by simp [zero] at lead; omega
  split
  · -- the point among the digits: the exponent is negative, so the first digit is not zero
    have lead' : d ≠ '0' := first fun zero => by simp [zero] at lead; omega
    obtain ⟨p, point, inside⟩ : ∃ p : Nat,
        (((ds.length + 1 : Nat) : Int) + k).toNat = p + 1 ∧ p < ds.length :=
      ⟨(((ds.length + 1 : Nat) : Int) + k).toNat - 1, by omega, by omega⟩
    rw [point]
    exact numberText_fractional digit later lead' inside
  split
  · -- a zero, the point and zeros before the digits
    exact numberText_small digit later _
  · -- one digit, the others after a point, and the exponent
    apply numberText_exponential
    · split
      · refine ⟨d :: ds, [], by simp, ⟨d, ds, rfl, digit, later, ?_⟩, .inl rfl⟩
        rename_i single
        intro more
        simp at single
        exact absurd single more
      · rename_i several
        refine ⟨[d], '.' :: ds, by simp, ⟨d, [], rfl, digit, by simp, by simp⟩,
          .inr ⟨ds, rfl, ?_, later⟩⟩
        simpa using several
    · split
      · exact .inl rfl
      · exact .inr rfl

/-- Every character of a number's text is ASCII. -/
theorem NumberText.ascii {cs : List Char} (number : NumberText cs) : ∀ c ∈ cs, c.toNat < 128 := by
  have digit : ∀ {c : Char}, c.isDigit → c.toNat < 128 := fun isDigit => by
    have := (Scan.toNat_of_isDigit isDigit).2
    omega
  obtain ⟨_, fs, es, rfl, ⟨d, ds, rfl, first, later, -⟩, fraction, exponent⟩ := number
  intro c mem
  simp only [List.mem_append, List.mem_cons] at mem
  rcases mem with ((rfl | mem) | mem) | mem
  · exact digit first
  · exact digit (later c mem)
  · rcases fraction with rfl | ⟨ds, rfl, -, digits⟩
    · cases mem
    · rcases List.mem_cons.1 mem with rfl | mem
      · decide
      · exact digit (digits c mem)
  · rcases exponent with rfl | ⟨sign, ds, rfl, signed, -, digits⟩
    · cases mem
    · rcases List.mem_cons.1 mem with rfl | mem
      · decide
      rcases List.mem_append.1 mem with mem | mem
      · rcases signed with rfl | rfl | rfl <;> simp at mem <;> (subst mem; decide)
      · exact digit (digits c mem)

end Json

namespace Number

open Json

/-- The text of every number is a minus sign or none, then a number's text. -/
theorem text_numberText (n : Number) :
    ∃ sign cs, n.text.toList = sign ++ cs ∧ (sign = [] ∨ sign = ['-']) ∧ NumberText cs := by
  cases n with
  | natural v =>
    exact ⟨[], Nat.toDigits 10 v.toNat, by
      simp only [text, Nat.toString_eq_ofList_toDigits, String.toList_ofList, List.nil_append],
      .inl rfl, (wholePart_toDigits _).numberText⟩
  | negative v =>
    cases value : v.toInt with
    | ofNat k =>
      have printed : toString (Int.ofNat k) = toString k := rfl
      exact ⟨[], Nat.toDigits 10 k, by
        simp only [text, value, printed, Nat.toString_eq_ofList_toDigits, String.toList_ofList,
          List.nil_append], .inl rfl, (wholePart_toDigits k).numberText⟩
    | negSucc m =>
      have printed : toString (Int.negSucc m) = "-" ++ toString (m + 1) := rfl
      exact ⟨['-'], Nat.toDigits 10 (m + 1), by
        simp only [text, value, printed, String.toList_append, Nat.toString_eq_ofList_toDigits,
          String.toList_ofList]
        rfl, .inr rfl, (wholePart_toDigits _).numberText⟩
  | float v =>
    simp only [text, FloatLayout.float]
    generalize Decimal.Binary.ofBits v.toBits = b
    have signed : (if b.negative then "-" else "").toList = [] ∨
        (if b.negative then "-" else "").toList = ['-'] := by
      split
      · exact .inr rfl
      · exact .inl rfl
    split
    · -- zero of either sign
      exact ⟨_, _, String.toList_append .., signed, ['0'], ['.', '0'], [], by simp,
        ⟨'0', [], rfl, by decide, by simp, by simp⟩, .inr ⟨['0'], rfl, by simp, by simp⟩, .inl rfl⟩
    · rename_i nonzero
      have lead := Decimal.shortest_digits b nonzero
      generalize Decimal.shortest b = pair at lead ⊢
      obtain ⟨digits, k⟩ := pair
      exact ⟨_, _, String.toList_append .., signed, layout_numberText digits k lead⟩

end Number

namespace Scan

open Json

-- Runs are stepped a whole bind at a time by `run_bind`; the layer-by-layer `ExceptT.run_bind`
-- would leave binds of the identity monad behind for the kernel to unfold.
attribute [-simp] ExceptT.run_bind

/-- The octets of a number: a minus sign or none, then a number's text, one octet a character. -/
theorem octets_text (n : Number) :
    ∃ sign cs, octets n.text = (sign ++ cs).map asciiOctet ∧ (sign = [] ∨ sign = ['-']) ∧
      NumberText cs := by
  obtain ⟨sign, cs, spelled, signed, number⟩ := n.text_numberText
  refine ⟨sign, cs, ?_, signed, number⟩
  rw [← String.ofList_toList (s := n.text), spelled]
  apply octets_ofList_ascii
  intro c mem
  rcases List.mem_append.1 mem with mem | mem
  · rcases signed with rfl | rfl
    · cases mem
    · rw [List.mem_singleton.1 mem]
      decide
  · exact number.ascii c mem

theorem skipDigits_go_run {rest : List UInt8} (stops : ∀ b ∈ rest.head?, isDigit b = false)
    (D : List Char) : ∀ (fuel : Nat) (cur : Cursor), (∀ d ∈ D, d.isDigit) →
      cur.ahead = D.map asciiOctet ++ rest → D.length < fuel →
      (skipDigits.go fuel).run.run cur = (.ok (), cur.skip D.length) := by
  induction D with
  | nil =>
    intro fuel cur _ h enough
    obtain ⟨fuel, rfl⟩ : ∃ f, fuel = f + 1 := ⟨fuel - 1, by omega⟩
    simp only [List.map_nil, List.nil_append] at h
    cases next : rest.head? with
    | none => simp [skipDigits.go, run_bind, peek_run, h, next]; rfl
    | some b => simp [skipDigits.go, run_bind, peek_run, h, next, stops b next]; rfl
  | cons d D ih =>
    intro fuel cur digits h enough
    obtain ⟨fuel, rfl⟩ : ∃ f, fuel = f + 1 := ⟨fuel - 1, by omega⟩
    have digit := (isDigit_asciiOctet (digits d (List.mem_cons_self ..))).1
    have h' : (cur.skip 1).ahead = D.map asciiOctet ++ rest := by simp [h]
    rw [List.map_cons, List.cons_append] at h
    simp only [skipDigits.go, run_bind, peek_run, h, List.head?_cons, digit, ↓reduceIte, eat_run]
    rw [ih fuel (cur.skip 1) (fun d mem => digits d (List.mem_cons_of_mem _ mem)) h'
      (by simp only [List.length_cons] at enough; omega), Cursor.skip_skip, List.length_cons,
      Nat.add_comm 1]

/-- Taking digits passes over a run of digits and stops before what follows. -/
theorem skipDigits_run {D : List Char} {rest : List UInt8} {cur : Cursor}
    (digits : ∀ d ∈ D, d.isDigit) (stops : ∀ b ∈ rest.head?, isDigit b = false)
    (h : cur.ahead = D.map asciiOctet ++ rest) :
    skipDigits.run.run cur = (.ok (), cur.skip D.length) := by
  have enough : D.length < cur.bytes.size - cur.index + 1 := by
    cases D with
    | nil => simp
    | cons d D =>
        have room := size_of_ahead h (by simp)
        simp only [List.length_map] at room
        omega
  simp only [skipDigits, run_bind, remaining_run]
  exact skipDigits_go_run stops D _ cur digits h enough

/-- An exponent is passed over through its last digit. -/
theorem skipExponent_run {sign ds : List Char} {rest : List UInt8} {cur : Cursor}
    (signed : sign = [] ∨ sign = ['+'] ∨ sign = ['-']) (nonempty : ds ≠ [])
    (digits : ∀ c ∈ ds, c.isDigit) (closes : Closes rest)
    (h : cur.ahead = ('e' :: (sign ++ ds)).map asciiOctet ++ rest) :
    skipNumber.skipExponent.run.run cur = (.ok (), cur.skip ('e' :: (sign ++ ds)).length) := by
  obtain ⟨d, ds, rfl⟩ := List.exists_cons_of_ne_nil nonempty
  have digit := (isDigit_asciiOctet (digits d List.mem_cons_self)).1
  have later : ∀ c ∈ ds, c.isDigit := fun c mem => digits c (List.mem_cons_of_mem _ mem)
  have stops := closes_not_digit closes
  have plus : asciiOctet d ≠ 0x2B := fun same => by simp [same, isDigit] at digit
  obtain ⟨-, -, -, minus, -⟩ := digit_ne digit
  -- after the sign, one digit is read by itself and the rest are taken together
  have digitsFrom (c : Cursor) (at_d : c.ahead = asciiOctet d :: (ds.map asciiOctet ++ rest)) :
      next.run.run c = (.ok (some (asciiOctet d)), c.skip 1) ∧
        skipDigits.run.run (c.skip 1) = (.ok (), (c.skip 1).skip ds.length) :=
    ⟨next_run at_d, skipDigits_run later stops (by simp [at_d])⟩
  rw [List.map_cons, List.cons_append] at h
  rcases signed with rfl | rfl | rfl
  · have peeked : (cur.skip 1).ahead.head? = some (asciiOctet d) := by simp [h]
    obtain ⟨first, others⟩ := digitsFrom (cur.skip 1) (by simp [h])
    simp only [skipNumber.skipExponent, run_bind, eat_run, peek_run, peeked]
    split
    · simp_all
    · simp_all
    · simp only [run_bind, first, digit, ↓reduceIte, others]
      simp [Nat.add_comm, Nat.add_left_comm]
  · have peeked : (cur.skip 1).ahead.head? = some 0x2B := by simp [h]; rfl
    obtain ⟨first, others⟩ := digitsFrom ((cur.skip 1).skip 1) (by simp [h])
    simp only [skipNumber.skipExponent, run_bind, eat_run, peek_run, peeked, first, digit,
      ↓reduceIte, others]
    simp [Nat.add_comm, Nat.add_left_comm]
  · have peeked : (cur.skip 1).ahead.head? = some 0x2D := by simp [h]; rfl
    obtain ⟨first, others⟩ := digitsFrom ((cur.skip 1).skip 1) (by simp [h])
    simp only [skipNumber.skipExponent, run_bind, eat_run, peek_run, peeked, first, digit,
      ↓reduceIte, others]
    simp [Nat.add_comm, Nat.add_left_comm]

/-- The octet of a digit other than zero. -/
theorem asciiOctet_leading {d : Char} (digit : d.isDigit) (nonzero : d ≠ '0') :
    asciiOctet d ≠ 0x30 ∧ (0x31 ≤ asciiOctet d ∧ asciiOctet d ≤ 0x39) := by
  obtain ⟨low, high⟩ := toNat_of_isDigit digit
  have value : (asciiOctet d).toNat = d.toNat := by
    rw [asciiOctet, UInt8.toNat_ofNat']
    omega
  have apart : d.toNat ≠ 48 := fun same => nonzero (Char.ext (UInt32.toNat_inj.1 (by simpa using same)))
  simp only [ne_eq, UInt8.le_iff_toNat_le, ← UInt8.toNat_inj, value]
  simp
  omega

/-- The steps the reader takes on a number once its integer part is read: a fraction, then an
exponent, each if one is there. -/
def skipNumberTail : Scan Unit := do
  match ← peek with
  | some 0x2E => do
      eat
      match ← peek with
      | some byte => if isDigit byte then skipDigits else failAhead .invalidNumber
      | none => failAhead .invalidNumber
      match ← peek with
      | some 0x65 => skipNumber.skipExponent
      | some 0x45 => skipNumber.skipExponent
      | _ => pure ()
  | some 0x65 => skipNumber.skipExponent
  | some 0x45 => skipNumber.skipExponent
  | _ => pure ()

/-- Passing over a number reads its integer part and then goes on with what follows it. -/
theorem skipNumber_integer {ws : List Char} {after : List UInt8} {cur : Cursor}
    (whole : WholePart ws) (stops : ∀ b ∈ after.head?, isDigit b = false)
    (h : cur.ahead = ws.map asciiOctet ++ after) :
    skipNumber.run.run cur = skipNumberTail.run.run (cur.skip ws.length) := by
  obtain ⟨d, ds, rfl, digit, later, lead⟩ := whole
  have octet := (isDigit_asciiOctet digit).1
  rw [List.map_cons, List.cons_append] at h
  have others : (cur.skip 1).ahead = ds.map asciiOctet ++ after := by simp [h]
  by_cases zero : d = '0'
  · subst zero
    obtain rfl : ds = [] := by
      cases ds with
      | nil => rfl
      | cons _ _ => exact absurd rfl (lead (List.cons_ne_nil _ _))
    have peeked : ∀ b ∈ (cur.skip 1).ahead.head?, isDigit b = false := by simpa [others] using stops
    have zeroOctet : asciiOctet '0' = 0x30 := rfl
    simp only [skipNumber, run_bind, next_run h, zeroOctet, peek_run]
    split
    · rename_i b seen
      simp only [peeked b seen, Bool.false_eq_true, ↓reduceIte]
      rfl
    · rfl
  · obtain ⟨notZero, leading⟩ := asciiOctet_leading digit zero
    simp only [skipNumber, run_bind, next_run h]
    rw [if_pos leading]
    simp only [run_bind, skipDigits_run later stops others, Cursor.skip_skip, List.length_cons,
      Nat.add_comm 1]
    rfl

/-- After the integer part, a fraction and an exponent are passed over to the number's end. -/
theorem skipNumberTail_run {fs es : List Char} {rest : List UInt8} {cur : Cursor}
    (fraction : FractionPart fs) (exponent : ExponentPart es) (closes : Closes rest)
    (h : cur.ahead = (fs ++ es).map asciiOctet ++ rest) :
    skipNumberTail.run.run cur = (.ok (), cur.skip (fs ++ es).length) := by
  rcases fraction with rfl | ⟨ds, rfl, nonempty, digits⟩
  · rcases exponent with rfl | ⟨sign, ds, rfl, signed, nonempty, digits⟩
    · simp only [List.append_nil, List.map_nil, List.nil_append] at h
      cases after : rest.head? with
      | none => simp [skipNumberTail, run_bind, peek_run, h, after]; rfl
      | some b =>
        rcases closes b after with rfl | rfl | rfl <;>
          simp [skipNumberTail, run_bind, peek_run, h, after] <;> rfl
    · have peeked : cur.ahead.head? = some 0x65 := by simp [h]; rfl
      simp only [skipNumberTail, run_bind, peek_run, peeked]
      exact skipExponent_run signed nonempty digits closes (by simpa using h)
  · -- the point, the digits of the fraction, and then an exponent or the end
    obtain ⟨d, ds, rfl⟩ := List.exists_cons_of_ne_nil nonempty
    have digit := (isDigit_asciiOctet (digits d List.mem_cons_self)).1
    have peeked : cur.ahead.head? = some 0x2E := by simp [h]; rfl
    have atDigits : (cur.skip 1).ahead = (d :: ds).map asciiOctet ++ (es.map asciiOctet ++ rest) := by
      simp [h]
    have stops : ∀ b ∈ (es.map asciiOctet ++ rest).head?, isDigit b = false := by
      rcases exponent with rfl | ⟨sign, es, rfl, -, -, -⟩
      · simpa using closes_not_digit closes
      · simp; decide
    have firstDigit : (cur.skip 1).ahead.head? = some (asciiOctet d) := by simp [atDigits]
    simp only [skipNumberTail, run_bind, peek_run, peeked, eat_run, firstDigit, digit, ↓reduceIte,
      skipDigits_run digits stops atDigits, Cursor.skip_skip]
    have atExponent : (cur.skip (1 + (d :: ds).length)).ahead = es.map asciiOctet ++ rest := by
      rw [← Cursor.skip_skip, Cursor.ahead_skip, atDigits, List.drop_left' (List.length_map _)]
    have skipped : cur.skip ('.' :: d :: ds ++ es).length =
        (cur.skip (1 + (d :: ds).length)).skip es.length := by
      simp only [Cursor.skip_skip, List.length_cons, List.length_append]
      congr 1
      omega
    rw [skipped]
    generalize cur.skip (1 + (d :: ds).length) = c at atExponent ⊢
    rw [atExponent]
    rcases exponent with rfl | ⟨sign, es, rfl, signed, nonempty, digits⟩
    · cases after : rest.head? with
      | none => simp [after]; rfl
      | some b => rcases closes b after with rfl | rfl | rfl <;> simp [after] <;> rfl
    · have peeked : (('e' :: (sign ++ es)).map asciiOctet ++ rest).head? = some 0x65 := rfl
      simp only [peeked]
      exact skipExponent_run signed nonempty digits closes atExponent

/-- A number's text is passed over to its end, when what follows may follow a value. -/
theorem skipNumber_numberText {cs : List Char} {rest : List UInt8} {cur : Cursor}
    (number : NumberText cs) (closes : Closes rest) (h : cur.ahead = cs.map asciiOctet ++ rest) :
    skipNumber.run.run cur = (.ok (), cur.skip cs.length) := by
  obtain ⟨ws, fs, es, rfl, whole, fraction, exponent⟩ := number
  -- after the integer part comes a point, an exponent, or an octet that closes
  have stops : ∀ b ∈ ((fs ++ es).map asciiOctet ++ rest).head?, isDigit b = false := by
    rcases fraction with rfl | ⟨ds, rfl, -, -⟩
    · rcases exponent with rfl | ⟨sign, ds, rfl, -, -, -⟩
      · simpa using closes_not_digit closes
      · simp; decide
    · simp; decide
  have tail : (cur.skip ws.length).ahead = (fs ++ es).map asciiOctet ++ rest := by simp [h]
  rw [skipNumber_integer whole stops (by simpa using h), skipNumberTail_run fraction exponent closes tail,
    Cursor.skip_skip]
  simp

end Scan

end Switchboard
