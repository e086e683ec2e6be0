import Mathlib
import Switchboard.Proofs.Utf8Reading
import Switchboard.Json.Reader

/-!
# Reading printed scalars back

The printer writes a scalar as a keyword, a decimal integer or a string literal; the reader reads
each back. The lemmas here run the reader symbolically on the octets ahead of it (`Cursor.ahead`):
one lemma per reading step (`peek_run`, `eat_run`, `next_run`, `hexEscape_run`), then the loops
that take many steps, each by induction over what it reads.

* A string literal's body is read back to the characters it was printed from
  (`stringBody_literal`) and passed over in the same number of octets (`skipString_literal`). A
  plain character is read as part of a run of raw UTF-8 octets, an escaped one as the character
  its escape stands for; the run's octets decode to the characters printed into it.
* A natural number below `2^64` is read back as a natural number and a negative number as a
  negative one (`scalarAt_natural`, `scalarAt_negative`), provided an octet that may follow a value
  comes next. Floats are not covered: their text is the shortest decimal, which is not inverted
  here.
* `scalarAt_compact` puts these together for every canonical scalar.
-/

namespace Switchboard

/-- The octets of a text's encoding. -/
def octets (s : String) : List UInt8 := s.toUTF8.data.toList

theorem octets_append (s t : String) : octets (s ++ t) = octets s ++ octets t := by
  simp [octets, String.toByteArray_append, ByteArray.data_append]

namespace Cursor

/-- The octets the reader has not yet read. -/
def ahead (c : Cursor) : List UInt8 := c.bytes.data.toList.drop c.index

/-- The reader moved `n` octets on. -/
def skip (c : Cursor) (n : Nat) : Cursor := { c with index := c.index + n }

theorem getElem?_index (c : Cursor) : c.bytes[c.index]? = c.ahead.head? := by
  rw [byteArray_getElem?_eq, ahead, List.head?_drop]

@[simp] theorem ahead_skip (c : Cursor) (n : Nat) : (c.skip n).ahead = c.ahead.drop n := by
  simp [ahead, skip, List.drop_drop, Nat.add_comm]

@[simp] theorem skip_skip (c : Cursor) (m n : Nat) : (c.skip m).skip n = c.skip (m + n) := by
  simp [skip, Nat.add_assoc]

@[simp] theorem skip_zero (c : Cursor) : c.skip 0 = c := rfl

end Cursor

namespace Scan

variable {α β : Type}

-- Runs are stepped a whole bind at a time by `run_bind`; the layer-by-layer `ExceptT.run_bind`
-- would leave binds of the identity monad behind for the kernel to unfold.
attribute [-simp] ExceptT.run_bind

theorem run_bind (x : Scan α) (f : α → Scan β) (c : Cursor) :
    (x >>= f).run.run c = match x.run.run c with
      | (.ok a, c') => (f a).run.run c'
      | (.error e, c') => (.error e, c') := by
  simp only [ExceptT.run_bind, StateT.run_bind]
  rcases h : x.run.run c with ⟨_ | a, c'⟩ <;> rfl

theorem run_pure (a : α) (c : Cursor) : (pure a : Scan α).run.run c = (.ok a, c) := rfl

theorem run_get (c : Cursor) : (get : Scan Cursor).run.run c = (.ok c, c) := rfl

theorem run_set (c c' : Cursor) : (set c' : Scan Unit).run.run c = (.ok (), c') := rfl

theorem run_modify (f : Cursor → Cursor) (c : Cursor) :
    (modify f : Scan Unit).run.run c = (.ok (), f c) := rfl

theorem run_map (f : α → β) (x : Scan α) (c : Cursor) :
    (f <$> x).run.run c = match x.run.run c with
      | (.ok a, c') => (.ok (f a), c')
      | (.error e, c') => (.error e, c') := by
  rw [map_eq_pure_bind, run_bind]
  rcases x.run.run c with ⟨_ | a, c'⟩ <;> rfl

theorem peek_run (c : Cursor) : peek.run.run c = (.ok c.ahead.head?, c) := by
  simp only [peek, ← Cursor.getElem?_index]
  rfl

theorem eat_run (c : Cursor) : eat.run.run c = (.ok (), c.skip 1) := rfl

theorem next_run {c : Cursor} {b : UInt8} {rest : List UInt8} (h : c.ahead = b :: rest) :
    next.run.run c = (.ok (some b), c.skip 1) := by
  simp [next, run_bind, peek_run, h, eat_run]; rfl

theorem nextInString_run {c : Cursor} {b : UInt8} {rest : List UInt8} (h : c.ahead = b :: rest) :
    nextInString.run.run c = (.ok b, c.skip 1) := by
  simp [nextInString, run_bind, next_run h]; rfl

theorem size_of_ahead {c : Cursor} {L rest : List UInt8} (h : c.ahead = L ++ rest)
    (nonempty : 0 < L.length) : c.index + L.length ≤ c.bytes.size := by
  have length := congrArg List.length h
  rw [Cursor.ahead, List.length_drop, List.length_append] at length
  have size : c.bytes.size = c.bytes.data.toList.length := by rw [Array.length_toList]; rfl
  rw [size]
  omega

theorem hexEscape_run {cur : Cursor} {a b d e : UInt8} {rest : List UInt8}
    (h : cur.ahead = [a, b, d, e] ++ rest) {va vb vd ve : Nat} (ha : hexValue a = some va)
    (hb : hexValue b = some vb) (hd : hexValue d = some vd) (he : hexValue e = some ve) :
    hexEscape.run.run cur = (.ok (((va * 16 + vb) * 16 + vd) * 16 + ve), cur.skip 4) := by
  have room := size_of_ahead h (by simp)
  have g k (hk : k < 4) := byteArray_getElem?_of_drop h k hk
  simp only [List.length_cons, List.length_nil] at room
  have g0 : cur.bytes[cur.index]? = some a := by simpa using g 0 (by omega)
  have digits : ((List.range 4).map fun k => cur.bytes[cur.index + k]?) =
      [some a, some b, some d, some e] := by
    simp [List.range_succ, g0, g 1 (by omega), g 2 (by omega), g 3 (by omega)]
  simp only [hexEscape, run_bind, run_get, run_set, if_pos room, digits, ha, hb, hd, he, run_pure]
  rfl

end Scan

theorem octets_singleton (c : Char) : octets (String.singleton c) = String.utf8EncodeChar c := by
  rw [octets, toUTF8_data_toList, String.toList_singleton, List.flatMap_singleton]

theorem octets_ascii {c : Char} (ascii : c.toNat ≤ 0x7F) :
    octets (String.singleton c) = [UInt8.ofNat c.toNat] := by
  rw [octets_singleton]
  simp [String.utf8EncodeChar, ascii]

namespace Json

/-- A character a string literal writes as itself. -/
def Plain (c : Char) : Prop := c ≠ '"' ∧ c ≠ '\\' ∧ 0x20 ≤ c.toNat

theorem hexValue_hexDigit : ∀ n < 16, Scan.hexValue (UInt8.ofNat (hexDigit n).toNat) = some n := by
  decide

theorem hexDigit_ascii : ∀ n < 16, (hexDigit n).toNat ≤ 0x7F := by
  decide

/-- An octet a string literal carries as it is: no quote, backslash or control character. -/
def PlainOctet (b : UInt8) : Prop := b.toNat ≠ 0x22 ∧ b.toNat ≠ 0x5C ∧ 0x20 ≤ b.toNat

/-- The octets of a character beyond ASCII all have the high bit set. -/
theorem high_of_utf8EncodeChar {c : Char} (wide : 0x7F < c.toNat) :
    ∀ b ∈ String.utf8EncodeChar c, 0x80 ≤ b.toNat := by
  intro b mem
  have bounded := Text.Utf8.toNat_valid c
  have wide' : ¬ c.val.toNat ≤ 127 := Nat.not_le.2 wide
  simp only [String.utf8EncodeChar, wide', ↓reduceIte] at mem
  split_ifs at mem <;>
    simp only [List.mem_cons, List.not_mem_nil, or_false] at mem <;>
    rcases mem with rfl | rfl | rfl | rfl <;>
    rw [UInt8.toNat_ofNat'] <;> omega

theorem plainOctet_of_plain {c : Char} (plain : Plain c) :
    ∀ b ∈ String.utf8EncodeChar c, PlainOctet b := by
  obtain ⟨quote, backslash, printable⟩ := plain
  have notQuote : c.toNat ≠ 0x22 := fun h => quote (Char.ext (UInt32.toNat_inj.1 h))
  have notBackslash : c.toNat ≠ 0x5C := fun h => backslash (Char.ext (UInt32.toNat_inj.1 h))
  intro b mem
  by_cases ascii : c.toNat ≤ 0x7F
  · simp only [String.utf8EncodeChar, show c.val.toNat ≤ 127 from ascii, if_true,
      List.mem_singleton] at mem
    subst mem
    have code : c.val.toNat = c.toNat := rfl
    unfold PlainOctet
    rw [UInt8.toNat_ofNat', code]
    omega
  · have high := high_of_utf8EncodeChar (Nat.lt_of_not_le ascii) b mem
    unfold PlainOctet
    omega

theorem octets_escapeChar_of_plain {c : Char} (plain : Plain c) :
    octets (escapeChar c) = String.utf8EncodeChar c := by
  obtain ⟨quote, backslash, printable⟩ := plain
  rw [escapeChar, if_neg quote, if_neg backslash, if_neg (by rintro rfl; simp at printable),
    if_neg (by rintro rfl; simp at printable), if_neg (by rintro rfl; simp at printable),
    if_neg (by rintro rfl; simp at printable), if_neg (by rintro rfl; simp at printable),
    if_neg (by omega), Char.toString, octets_singleton]

/-- The characters written as a backslash and one letter, with the letter's octet. -/
def letterEscapes : List (Char × UInt8) :=
  [('"', 0x22), ('\\', 0x5C), ('\x08', 0x62), ('\x0c', 0x66), ('\n', 0x6E), ('\r', 0x72),
    ('\t', 0x74)]

theorem octets_escapeChar_letter :
    ∀ p ∈ letterEscapes, octets (escapeChar p.1) = [0x5C, p.2] := by
  decide

/-- A character that is not plain has a letter escape or is a control character written with
`\u00` and two hexadecimal digits. -/
theorem escaped_cases {c : Char} (escaped : ¬ Plain c) :
    (∃ p ∈ letterEscapes, p.1 = c) ∨
      (c.toNat < 0x20 ∧ octets (escapeChar c) = [0x5C, 0x75, 0x30, 0x30,
        UInt8.ofNat (hexDigit (c.toNat / 16)).toNat, UInt8.ofNat (hexDigit (c.toNat % 16)).toNat]) := by
  by_cases letter : ∃ p ∈ letterEscapes, p.1 = c
  · exact .inl letter
  right
  simp only [letterEscapes, List.mem_cons, List.not_mem_nil, or_false, exists_eq_or_imp,
    exists_eq_left, not_or] at letter
  obtain ⟨quote, backslash, backspace, formFeed, newline, carriage, tab⟩ := letter
  have control : c.toNat < 0x20 := by
    simp only [Plain, not_and, Nat.not_le] at escaped
    exact escaped (Ne.symm quote) (Ne.symm backslash)
  refine ⟨control, ?_⟩
  rw [escapeChar, if_neg (Ne.symm quote), if_neg (Ne.symm backslash), if_neg (Ne.symm backspace),
    if_neg (Ne.symm formFeed), if_neg (Ne.symm newline), if_neg (Ne.symm carriage),
    if_neg (Ne.symm tab), if_pos control, octets_append, octets_append, Char.toString,
    Char.toString, octets_ascii (hexDigit_ascii _ (by omega)),
    octets_ascii (hexDigit_ascii _ (by omega))]
  rfl

end Json

namespace Scan

open Json

attribute [-simp] ExceptT.run_bind

theorem escape_letter : ∀ p ∈ letterEscapes, ∀ (cur : Cursor) (rest : List UInt8),
    cur.ahead = p.2 :: rest → escape.run.run cur = (.ok p.1, cur.skip 1) := by
  intro p mem cur rest h
  simp only [letterEscapes, List.mem_cons, List.not_mem_nil, or_false] at mem
  rcases mem with rfl | rfl | rfl | rfl | rfl | rfl | rfl <;>
    (simp [escape, run_bind, nextInString_run h]; rfl)

theorem skipString_go_letter {fuel : Nat} :
    ∀ p ∈ letterEscapes, ∀ (cur : Cursor) (rest : List UInt8), cur.ahead = 0x5C :: p.2 :: rest →
      (skipString.go (fuel + 1)).run.run cur = (skipString.go fuel).run.run (cur.skip 2) := by
  intro p mem cur rest h
  have h' : (cur.skip 1).ahead = p.2 :: rest := by simp [h]
  simp only [letterEscapes, List.mem_cons, List.not_mem_nil, or_false] at mem
  rcases mem with rfl | rfl | rfl | rfl | rfl | rfl | rfl <;>
    simp [skipString.go, run_bind, peek_run, h, eat_run, nextInString_run h']

theorem escape_control {c : Char} (control : c.toNat < 0x20) {cur : Cursor} {rest : List UInt8}
    (h : cur.ahead = [0x75, 0x30, 0x30, UInt8.ofNat (hexDigit (c.toNat / 16)).toNat,
      UInt8.ofNat (hexDigit (c.toNat % 16)).toNat] ++ rest) :
    escape.run.run cur = (.ok c, cur.skip 5) := by
  have digits : (cur.skip 1).ahead = [0x30, 0x30, UInt8.ofNat (hexDigit (c.toNat / 16)).toNat,
      UInt8.ofNat (hexDigit (c.toNat % 16)).toNat] ++ rest := by
    simp [h]
  have zero : hexValue 0x30 = some 0 := by decide
  have value := hexEscape_run digits zero zero (hexValue_hexDigit (c.toNat / 16) (by omega))
    (hexValue_hexDigit (c.toNat % 16) (by omega))
  have point : ((0 * 16 + 0) * 16 + c.toNat / 16) * 16 + c.toNat % 16 = c.toNat := by omega
  rw [point] at value
  simp [escape, run_bind, nextInString_run h, value, show ¬ 0xDC00 ≤ c.toNat by omega,
    show ¬ 0xD800 ≤ c.toNat by omega, Char.ofNat_toNat]
  rfl

theorem skipString_go_control {c : Char} (control : c.toNat < 0x20) {fuel : Nat} {cur : Cursor}
    {rest : List UInt8}
    (h : cur.ahead = 0x5C :: ([0x75, 0x30, 0x30, UInt8.ofNat (hexDigit (c.toNat / 16)).toNat,
      UInt8.ofNat (hexDigit (c.toNat % 16)).toNat] ++ rest)) :
    (skipString.go (fuel + 1)).run.run cur = (skipString.go fuel).run.run (cur.skip 6) := by
  have h' : (cur.skip 1).ahead = 0x75 :: ([0x30, 0x30, UInt8.ofNat (hexDigit (c.toNat / 16)).toNat,
      UInt8.ofNat (hexDigit (c.toNat % 16)).toNat] ++ rest) := by
    simp [h]
  have digits : (cur.skip 2).ahead = [0x30, 0x30,
      UInt8.ofNat (hexDigit (c.toNat / 16)).toNat, UInt8.ofNat (hexDigit (c.toNat % 16)).toNat] ++
      rest := by
    simp [h]
  have zero : hexValue 0x30 = some 0 := by decide
  have value := hexEscape_run digits zero zero (hexValue_hexDigit (c.toNat / 16) (by omega))
    (hexValue_hexDigit (c.toNat % 16) (by omega))
  simp [skipString.go, run_bind, peek_run, h, eat_run, nextInString_run h', value]

/-- What follows the backslash of a character that is not plain. -/
def escapeTail (c : Char) : List UInt8 := (octets (escapeChar c)).tail

theorem octets_escapeChar_escaped {c : Char} (escaped : ¬ Plain c) :
    octets (escapeChar c) = 0x5C :: escapeTail c := by
  rcases escaped_cases escaped with ⟨p, mem, rfl⟩ | ⟨-, octs⟩
  · rw [escapeTail, octets_escapeChar_letter p mem]; rfl
  · rw [escapeTail, octs]; rfl

theorem escape_escapeTail {c : Char} (escaped : ¬ Plain c) {cur : Cursor} {rest : List UInt8}
    (h : cur.ahead = escapeTail c ++ rest) :
    escape.run.run cur = (.ok c, cur.skip (escapeTail c).length) := by
  rcases escaped_cases escaped with ⟨p, mem, rfl⟩ | ⟨control, octs⟩
  · rw [escapeTail, octets_escapeChar_letter p mem] at h ⊢
    exact escape_letter p mem cur rest h
  · rw [escapeTail, octs] at h ⊢
    exact escape_control control h

theorem skipString_go_escaped {c : Char} (escaped : ¬ Plain c) {fuel : Nat} {cur : Cursor}
    {rest : List UInt8} (h : cur.ahead = 0x5C :: (escapeTail c ++ rest)) :
    (skipString.go (fuel + 1)).run.run cur =
      (skipString.go fuel).run.run (cur.skip (1 + (escapeTail c).length)) := by
  rcases escaped_cases escaped with ⟨p, mem, rfl⟩ | ⟨control, octs⟩
  · rw [escapeTail, octets_escapeChar_letter p mem] at h ⊢
    exact skipString_go_letter p mem cur rest h
  · rw [escapeTail, octs] at h ⊢
    exact skipString_go_control control h

theorem stringBody_go_plain {fuel start : Nat} {soFar : StringSoFar} {cur : Cursor} {b : UInt8}
    {rest : List UInt8} (h : cur.ahead = b :: rest) (plain : PlainOctet b) :
    (stringBody.go (fuel + 1) start soFar).run.run cur =
      (stringBody.go fuel start soFar).run.run (cur.skip 1) := by
  obtain ⟨notQuote, notBackslash, printable⟩ := plain
  have quote : b ≠ 0x22 := by intro e; subst e; exact notQuote rfl
  have backslash : b ≠ 0x5C := by intro e; subst e; exact notBackslash rfl
  have control : ¬ b < 0x20 := by rw [UInt8.lt_iff_toNat_lt]; simpa using printable
  simp [stringBody.go, run_bind, run_get, Cursor.getElem?_index, h, quote, backslash, control,
    eat_run]

theorem stringBody_go_plains {start : Nat} {soFar : StringSoFar} {rest : List UInt8} :
    ∀ (B : List UInt8) (fuel : Nat) (cur : Cursor), (∀ b ∈ B, PlainOctet b) →
      cur.ahead = B ++ rest →
      (stringBody.go (fuel + B.length) start soFar).run.run cur =
        (stringBody.go fuel start soFar).run.run (cur.skip B.length)
  | [], fuel, cur, _, _ => rfl
  | b :: B, fuel, cur, plain, h => by
    have h' : cur.ahead = b :: (B ++ rest) := h
    rw [List.length_cons, ← Nat.add_assoc, stringBody_go_plain h' (plain b (List.mem_cons_self ..)),
      stringBody_go_plains B fuel (cur.skip 1) (fun b mem => plain b (List.mem_cons_of_mem _ mem))
        (by rw [Cursor.ahead_skip, h']; rfl), Cursor.skip_skip, Nat.add_comm 1]

theorem addRun_of_decoded {bytes : ByteArray} {start stop : Nat} {soFar : StringSoFar} {t : String}
    (decoded : Text.Utf8.decodeRange bytes start stop = .ok t) (valid : soFar.validPrefix = none) :
    (addRun bytes start stop soFar).text = soFar.text ++ t ∧
      (addRun bytes start stop soFar).validPrefix = none := by
  simp [addRun, valid, decoded]

theorem stringBody_go_quote {fuel start : Nat} {soFar : StringSoFar} {cur : Cursor}
    {rest : List UInt8} {t : String} (h : cur.ahead = 0x22 :: rest)
    (decoded : Text.Utf8.decodeRange cur.bytes start cur.index = .ok t)
    (valid : soFar.validPrefix = none) :
    (stringBody.go (fuel + 1) start soFar).run.run cur = (.ok (soFar.text ++ t), cur.skip 1) := by
  obtain ⟨text, valid'⟩ := addRun_of_decoded decoded valid
  simp [stringBody.go, run_bind, run_get, Cursor.getElem?_index, h, eat_run, valid', text]
  rfl

theorem stringBody_go_escape {fuel start : Nat} {soFar : StringSoFar} {cur : Cursor}
    {rest T : List UInt8} {c : Char} (h : cur.ahead = 0x5C :: (T ++ rest))
    (reads : escape.run.run (cur.skip 1) = (.ok c, (cur.skip 1).skip T.length)) :
    (stringBody.go (fuel + 1) start soFar).run.run cur =
      (stringBody.go fuel (cur.skip (1 + T.length)).index
        (addEscaped c (addRun cur.bytes start cur.index soFar))).run.run
        (cur.skip (1 + T.length)) := by
  simp [stringBody.go, run_bind, run_get, Cursor.getElem?_index, h, eat_run, reads]

/-- The octets of the characters of a string literal, each written as the printer writes it. -/
def literalOctets (cs : List Char) : List UInt8 := cs.flatMap fun c => octets (escapeChar c)

theorem stringBody_go_literal {rest : List UInt8} (cs : List Char) :
    ∀ (run : List Char) (soFar : StringSoFar) (fuel start : Nat) (cur : Cursor),
      soFar.validPrefix = none →
      cur.bytes.data.toList.drop start = run.flatMap String.utf8EncodeChar ++ cur.ahead →
      cur.index = start + (run.flatMap String.utf8EncodeChar).length →
      cur.ahead = literalOctets cs ++ 0x22 :: rest →
      (literalOctets cs).length < fuel →
      (stringBody.go fuel start soFar).run.run cur =
        (.ok (soFar.text ++ String.ofList run ++ String.ofList cs),
          cur.skip ((literalOctets cs).length + 1)) := by
  induction cs with
  | nil =>
    intro run soFar fuel start cur valid runAt place h enough
    obtain ⟨fuel, rfl⟩ : ∃ f, fuel = f + 1 := ⟨fuel - 1, by omega⟩
    have decoded := Text.Utf8.decodeRange_encode run runAt
    rw [← place] at decoded
    rw [stringBody_go_quote h decoded valid]
    simp [literalOctets]
  | cons c cs ih =>
    intro run soFar fuel start cur valid runAt place h enough
    simp only [literalOctets, List.flatMap_cons, List.length_append] at h enough ih ⊢
    by_cases plain : Plain c
    · -- a plain character is read as part of the current run
      rw [octets_escapeChar_of_plain plain] at h enough ⊢
      rw [List.append_assoc] at h
      obtain ⟨fuel, rfl⟩ : ∃ f, fuel = f + (String.utf8EncodeChar c).length :=
        ⟨fuel - (String.utf8EncodeChar c).length, by omega⟩
      rw [stringBody_go_plains _ fuel cur (plainOctet_of_plain plain) h]
      have runAt' : cur.bytes.data.toList.drop start =
          (run ++ [c]).flatMap String.utf8EncodeChar ++ (cur.skip (String.utf8EncodeChar c).length).ahead := by
        rw [runAt, h, Cursor.ahead_skip, h, List.drop_left, List.flatMap_append, List.flatMap_singleton,
          List.append_assoc]
      rw [ih (run ++ [c]) soFar fuel start _ valid runAt' (by simp [Cursor.skip, place, Nat.add_assoc])
        (by rw [Cursor.ahead_skip, h, List.drop_left]) (by omega)]
      simp [-String.append_singleton, String.ofList_append, String.ofList_cons,
        String.append_assoc, Nat.add_assoc]
    · -- an escape ends the run; the escaped character starts the next one
      have octs := octets_escapeChar_escaped plain
      have reads := fun cur rest (h : Cursor.ahead cur = escapeTail c ++ rest) =>
        escape_escapeTail plain h
      generalize escapeTail c = T at octs reads
      rw [octs] at h enough ⊢
      obtain ⟨fuel, rfl⟩ : ∃ f, fuel = f + 1 := ⟨fuel - 1, by omega⟩
      have h' : cur.ahead = 0x5C :: (T ++ (literalOctets cs ++ 0x22 :: rest)) := by
        rw [h]; simp [literalOctets]
      have decoded := Text.Utf8.decodeRange_encode run runAt
      rw [← place] at decoded
      obtain ⟨text, valid'⟩ := addRun_of_decoded decoded valid
      rw [stringBody_go_escape h' (reads _ _ (by rw [Cursor.ahead_skip, h']; rfl))]
      rw [ih [] (addEscaped c (addRun cur.bytes start cur.index soFar)) fuel
        (cur.skip (1 + T.length)).index (cur.skip (1 + T.length)) valid'
        (by rw [List.flatMap_nil, List.nil_append]; rfl) (by simp)
        (by rw [Cursor.ahead_skip, h', Nat.add_comm, List.drop_succ_cons, List.drop_left]; rfl)
        (by simp only [List.length_cons] at enough; omega)]
      simp [-String.append_singleton, String.push_eq_append, addEscaped, text, String.ofList_cons,
        String.append_assoc, Nat.add_assoc, Nat.add_left_comm]

theorem remaining_run (cur : Cursor) :
    remaining.run.run cur = (.ok (cur.bytes.size - cur.index + 1), cur) := rfl

/-- The string reader reads a literal's body back to the characters it was printed from. -/
theorem stringBody_literal {cur : Cursor} {cs : List Char} {rest : List UInt8}
    (h : cur.ahead = literalOctets cs ++ 0x22 :: rest) :
    stringBody.run.run cur = (.ok (String.ofList cs), cur.skip ((literalOctets cs).length + 1)) := by
  have room := size_of_ahead (show cur.ahead = (literalOctets cs ++ [0x22]) ++ rest by simpa using h)
    (by simp)
  simp only [List.length_append, List.length_singleton] at room
  have body := stringBody_go_literal cs [] { text := "", size := 0, validPrefix := none }
    (cur.bytes.size - cur.index + 1) cur.index cur rfl (by simp [Cursor.ahead]) (by simp) h
    (by omega)
  simp only [String.empty_append, String.ofList_nil, String.append_empty] at body
  simp [stringBody, run_bind, remaining_run, run_get, body]

theorem skipString_go_plain {fuel : Nat} {cur : Cursor} {b : UInt8} {rest : List UInt8}
    (h : cur.ahead = b :: rest) (plain : PlainOctet b) :
    (skipString.go (fuel + 1)).run.run cur = (skipString.go fuel).run.run (cur.skip 1) := by
  obtain ⟨notQuote, notBackslash, printable⟩ := plain
  have quote : b ≠ 0x22 := by intro e; subst e; exact notQuote rfl
  have backslash : b ≠ 0x5C := by intro e; subst e; exact notBackslash rfl
  have control : ¬ b < 0x20 := by rw [UInt8.lt_iff_toNat_lt]; simpa using printable
  simp [skipString.go, run_bind, peek_run, h, quote, backslash, control, eat_run]

theorem skipString_go_plains {rest : List UInt8} :
    ∀ (B : List UInt8) (fuel : Nat) (cur : Cursor), (∀ b ∈ B, PlainOctet b) →
      cur.ahead = B ++ rest →
      (skipString.go (fuel + B.length)).run.run cur =
        (skipString.go fuel).run.run (cur.skip B.length)
  | [], fuel, cur, _, _ => rfl
  | b :: B, fuel, cur, plain, h => by
    have h' : cur.ahead = b :: (B ++ rest) := h
    rw [List.length_cons, ← Nat.add_assoc, skipString_go_plain h' (plain b (List.mem_cons_self ..)),
      skipString_go_plains B fuel (cur.skip 1) (fun b mem => plain b (List.mem_cons_of_mem _ mem))
        (by rw [Cursor.ahead_skip, h']; rfl), Cursor.skip_skip, Nat.add_comm 1]

theorem skipString_go_literal {rest : List UInt8} (cs : List Char) :
    ∀ (fuel : Nat) (cur : Cursor), cur.ahead = literalOctets cs ++ 0x22 :: rest →
      (literalOctets cs).length < fuel →
      (skipString.go fuel).run.run cur = (.ok (), cur.skip ((literalOctets cs).length + 1)) := by
  induction cs with
  | nil =>
    intro fuel cur h enough
    obtain ⟨fuel, rfl⟩ : ∃ f, fuel = f + 1 := ⟨fuel - 1, by omega⟩
    simp [literalOctets] at h
    simp [skipString.go, run_bind, peek_run, h, eat_run, literalOctets]
  | cons c cs ih =>
    intro fuel cur h enough
    simp only [literalOctets, List.flatMap_cons, List.length_append] at h enough ih ⊢
    by_cases plain : Plain c
    · rw [octets_escapeChar_of_plain plain] at h enough ⊢
      rw [List.append_assoc] at h
      obtain ⟨fuel, rfl⟩ : ∃ f, fuel = f + (String.utf8EncodeChar c).length :=
        ⟨fuel - (String.utf8EncodeChar c).length, by omega⟩
      rw [skipString_go_plains _ fuel cur (plainOctet_of_plain plain) h,
        ih fuel _ (by rw [Cursor.ahead_skip, h, List.drop_left]) (by omega)]
      simp [Nat.add_assoc]
    · rw [octets_escapeChar_escaped plain] at h enough ⊢
      obtain ⟨fuel, rfl⟩ : ∃ f, fuel = f + 1 := ⟨fuel - 1, by omega⟩
      have h' : cur.ahead = 0x5C :: (escapeTail c ++ (literalOctets cs ++ 0x22 :: rest)) := by
        rw [h]; simp [literalOctets]
      rw [skipString_go_escaped plain h',
        ih fuel _ (by rw [Cursor.ahead_skip, h', Nat.add_comm, List.drop_succ_cons, List.drop_left]; rfl)
          (by simp only [List.length_cons] at enough; omega)]
      simp [Nat.add_assoc, Nat.add_left_comm]

theorem skipString_literal {cur : Cursor} {cs : List Char} {rest : List UInt8}
    (h : cur.ahead = literalOctets cs ++ 0x22 :: rest) :
    skipString.run.run cur = (.ok (), cur.skip ((literalOctets cs).length + 1)) := by
  have room := size_of_ahead (show cur.ahead = (literalOctets cs ++ [0x22]) ++ rest by simpa using h)
    (by simp)
  simp only [List.length_append, List.length_singleton] at room
  simp [skipString, run_bind, remaining_run,
    skipString_go_literal cs (cur.bytes.size - cur.index + 1) cur h (by omega)]

/-! ## Numbers -/

/-- What may follow a printed value: nothing, a comma or a closing bracket. -/
def Closes (rest : List UInt8) : Prop := ∀ b ∈ rest.head?, b = 0x2C ∨ b = 0x5D ∨ b = 0x7D

/-- The octet of an ASCII character. -/
def asciiOctet (c : Char) : UInt8 := UInt8.ofNat c.toNat

theorem toNat_of_isDigit {d : Char} (digit : d.isDigit) : 48 ≤ d.toNat ∧ d.toNat ≤ 57 := by
  simpa [Char.isDigit, UInt32.le_iff_toNat_le] using digit

/-- An ASCII text is written one octet a character. -/
theorem octets_ofList_ascii (cs : List Char) (ascii : ∀ c ∈ cs, c.toNat < 128) :
    octets (String.ofList cs) = cs.map asciiOctet := by
  rw [octets, toUTF8_data_toList, String.toList_ofList]
  induction cs with
  | nil => rfl
  | cons c cs ih =>
    have small := ascii c (List.mem_cons_self ..)
    rw [List.flatMap_cons, ih (fun c mem => ascii c (List.mem_cons_of_mem _ mem))]
    simp [String.utf8EncodeChar, asciiOctet, show c.toNat ≤ 127 by omega]

theorem octets_ofList_digits (D : List Char) (digits : ∀ d ∈ D, d.isDigit) :
    octets (String.ofList D) = D.map asciiOctet :=
  octets_ofList_ascii D fun d mem => by
    have := (toNat_of_isDigit (digits d mem)).2
    omega

theorem isDigit_asciiOctet {d : Char} (digit : d.isDigit) :
    isDigit (asciiOctet d) = true ∧ digitValue (asciiOctet d) = d.toNat - '0'.toNat := by
  obtain ⟨low, high⟩ := toNat_of_isDigit digit
  have value : (asciiOctet d).toNat = d.toNat := by
    rw [asciiOctet, UInt8.toNat_ofNat']; omega
  simp [isDigit, digitValue, UInt8.le_iff_toNat_le, value]
  omega

theorem overflows_eq_false {value digit limit : Nat} (fits : value * 10 + digit ≤ limit) :
    overflows value digit limit = false := by
  simp only [overflows, Bool.and_eq_false_iff, decide_eq_false_iff_not, Nat.not_le, Bool.or_eq_false_iff,
    Nat.not_lt]
  omega

theorem le_ofDigitChars (D : List Char) (v : Nat) : v ≤ Nat.ofDigitChars 10 D v := by
  rw [Nat.ofDigitChars_eq_ofDigitChars_zero]
  have : v ≤ 10 ^ D.length * v := Nat.le_mul_of_pos_left v (Nat.pow_pos (by decide))
  omega

theorem ofDigitChars_cons_digit {d : Char} (D : List Char) (v : Nat) :
    Nat.ofDigitChars 10 (d :: D) v = Nat.ofDigitChars 10 D (v * 10 + (d.toNat - '0'.toNat)) := by
  rw [Nat.ofDigitChars_cons, Nat.mul_comm]

/-- The digit loop reads a run of digits into the number they spell, while that number fits 64
bits, and hands over to the number's tail after the run. -/
theorem number_digits_run {positive : Bool} {rest : List UInt8}
    (stops : ∀ b ∈ rest.head?, isDigit b = false) (D : List Char) :
    ∀ (fuel v : Nat) (cur : Cursor), (∀ d ∈ D, d.isDigit) → cur.ahead = D.map asciiOctet ++ rest →
      D.length < fuel → Nat.ofDigitChars 10 D v ≤ 18446744073709551615 →
      (number.digits positive fuel v).run.run cur =
        (numberTail positive (Nat.ofDigitChars 10 D v)).run.run (cur.skip D.length) := by
  induction D with
  | nil =>
    intro fuel v cur _ h enough _
    obtain ⟨fuel, rfl⟩ : ∃ f, fuel = f + 1 := ⟨fuel - 1, by omega⟩
    simp only [List.map_nil, List.nil_append] at h
    cases next : rest.head? with
    | none => simp [number.digits, run_bind, peek_run, h, next, Nat.ofDigitChars_nil]
    | some b =>
      simp [number.digits, run_bind, peek_run, h, next, stops b next, Nat.ofDigitChars_nil]
  | cons d D ih =>
    intro fuel v cur digits h enough fits
    obtain ⟨fuel, rfl⟩ : ∃ f, fuel = f + 1 := ⟨fuel - 1, by omega⟩
    obtain ⟨digit, value⟩ := isDigit_asciiOctet (digits d (List.mem_cons_self ..))
    rw [ofDigitChars_cons_digit] at fits ⊢
    have step := le_ofDigitChars D (v * 10 + (d.toNat - '0'.toNat))
    have h' : (cur.skip 1).ahead = D.map asciiOctet ++ rest := by simp [h]
    rw [List.map_cons, List.cons_append] at h
    simp only [number.digits, run_bind, peek_run, h, List.head?_cons, digit, ↓reduceIte, value,
      overflows_eq_false (Nat.le_trans step fits), Bool.false_eq_true, eat_run]
    rw [ih fuel _ (cur.skip 1) (fun d mem => digits d (List.mem_cons_of_mem _ mem)) h'
      (by simp only [List.length_cons] at enough; omega) fits, Cursor.skip_skip, List.length_cons,
      Nat.add_comm 1]

/-- Every octet that may follow a printed value stops a number. -/
theorem closes_not_digit {rest : List UInt8} (closes : Closes rest) :
    ∀ b ∈ rest.head?, isDigit b = false := by
  intro b mem
  rcases closes b mem with rfl | rfl | rfl <;> decide

/-- Before an octet that may follow a printed value, a number has no fraction or exponent: its
class is settled by its sign and size. -/
theorem numberTail_closes {positive : Bool} {v : Nat} {cur : Cursor} (closes : Closes cur.ahead) :
    (numberTail positive v).run.run cur =
      (.ok (if positive then .natural (UInt64.ofNat v)
        else if 0 < v ∧ v ≤ 9223372036854775808 then .negative (Int64.ofInt (-(v : Int)))
        else .float (-(UInt64.ofNat v).toFloat)), cur) := by
  unfold numberTail
  cases next : cur.ahead.head? with
  | none => simp [run_bind, peek_run, next]; split_ifs <;> rfl
  | some b =>
    rcases closes b next with rfl | rfl | rfl <;> simp [run_bind, peek_run, next] <;> split_ifs <;> rfl

/-- The printed digits of a positive number start with a digit other than zero. -/
theorem toDigits_head_ne_zero (n : Nat) (pos : 0 < n) :
    ∃ d D, Nat.toDigits 10 n = d :: D ∧ d ≠ '0' := by
  induction n using Nat.strongRecOn with
  | ind n ih =>
    rw [Nat.toDigits_eq_if (by decide)]
    split
    · have single : ∀ k < 10, 0 < k → Nat.digitChar k ≠ '0' := by decide
      exact ⟨_, [], rfl, single n ‹_› pos⟩
    · obtain ⟨d, D, digits, lead⟩ := ih (n / 10) (by omega) (by omega)
      exact ⟨d, D ++ [Nat.digitChar (n % 10)], by rw [digits]; rfl, lead⟩

theorem octets_toString (n : Nat) : octets (toString n) = (Nat.toDigits 10 n).map asciiOctet := by
  rw [Nat.toString_eq_ofList_toDigits, octets_ofList_digits _
    (fun _ mem => Nat.isDigit_of_mem_toDigits (by decide) (by decide) mem)]

/-- The number reader reads a printed natural number below `2^64` to the number it spells and
leaves the rest to the number's tail. -/
theorem number_toString {positive : Bool} {n : Nat} (fits : n ≤ 18446744073709551615)
    {cur : Cursor} {rest : List UInt8} (h : cur.ahead = octets (toString n) ++ rest)
    (closes : Closes rest) :
    (number positive).run.run cur =
      (numberTail positive n).run.run (cur.skip (octets (toString n)).length) := by
  rw [octets_toString] at h ⊢
  rcases Nat.eq_zero_or_pos n with rfl | pos
  · -- zero is the one printed number that starts with the digit zero
    rw [Nat.toDigits_zero] at h ⊢
    have zero : asciiOctet '0' = 0x30 := rfl
    simp only [List.map_cons, List.map_nil, zero, List.cons_append, List.nil_append] at h
    have h' : (cur.skip 1).ahead = rest := by simp [h]
    simp only [number, run_bind, next_run h]
    cases after : rest.head? with
    | none => simp [run_bind, peek_run, h', after]
    | some b => simp [run_bind, peek_run, h', after, closes_not_digit closes b after]
  · obtain ⟨d, D, digits, lead⟩ := toDigits_head_ne_zero n pos
    have isDigits := fun c (mem : c ∈ Nat.toDigits 10 n) =>
      Nat.isDigit_of_mem_toDigits (by decide) (by decide) mem
    rw [digits] at h isDigits ⊢
    obtain ⟨digit, value⟩ := isDigit_asciiOctet (isDigits d (List.mem_cons_self ..))
    have notZero : asciiOctet d ≠ 0x30 := by
      intro zero
      have := congrArg UInt8.toNat zero
      obtain ⟨low, high⟩ := toNat_of_isDigit (isDigits d (List.mem_cons_self ..))
      rw [asciiOctet, UInt8.toNat_ofNat'] at this
      exact lead (Char.ext (UInt32.toNat_inj.1 (by simp at this ⊢; omega)))
    have room := size_of_ahead h (by simp)
    have h' : (cur.skip 1).ahead = D.map asciiOctet ++ rest := by simp [h]
    have spelled : Nat.ofDigitChars 10 D (d.toNat - '0'.toNat) = n := by
      have : Nat.ofDigitChars 10 (Nat.toDigits 10 n) 0 = n := Nat.ofDigitChars_ten_toDigits
      rwa [digits, ofDigitChars_cons_digit, Nat.zero_mul, Nat.zero_add] at this
    rw [List.map_cons, List.cons_append] at h
    simp only [number, run_bind, next_run h, notZero, digit, value, remaining_run, beq_iff_eq,
      ↓reduceIte]
    rw [number_digits_run (closes_not_digit closes) D _ _ _
      (fun c mem => isDigits c (List.mem_cons_of_mem _ mem)) h'
      (by simp only [Cursor.skip, List.length_map, List.length_cons] at room ⊢; omega)
      (by rw [spelled]; exact fits), spelled]
    simp [Nat.add_comm]

/-- A literal's remaining octets are read when the text has them next. -/
theorem literal_run (L : List UInt8) :
    ∀ (cur : Cursor) (rest : List UInt8), cur.ahead = L ++ rest →
      (literal L).run.run cur = (.ok (), cur.skip L.length) := by
  induction L with
  | nil => intro cur rest _; rfl
  | cons b L ih =>
    intro cur rest h
    have h' : cur.ahead = b :: (L ++ rest) := h
    have later := ih (cur.skip 1) rest (by simp [h'])
    simp only [literal, run_bind, run_pure] at later
    simp only [literal]
    rw [List.forIn_cons, bind_assoc, run_bind]
    simp only [run_bind, next_run h', bne_self_eq_false, Bool.false_eq_true, ↓reduceIte, run_pure]
    rw [later, Cursor.skip_skip, Nat.add_comm, List.length_cons]

/-- Passing over blanks stops at once before an octet that is not blank. -/
theorem skipBlanks_of_not_blank {cur : Cursor} (solid : ∀ b ∈ cur.ahead.head?, isBlank b = false) :
    skipBlanks.run.run cur = (.ok cur.ahead.head?, cur) := by
  unfold skipBlanks
  cases fuel : cur.bytes.size - cur.index + 1 with
  | zero => omega
  | succ fuel =>
    cases head : cur.ahead.head? with
    | none => simp [run_bind, remaining_run, fuel, skipBlanks.go, peek_run, head]; rfl
    | some b =>
      simp [run_bind, remaining_run, fuel, skipBlanks.go, peek_run, head, solid b head]; rfl

end Scan

theorem octets_join (L : List String) : octets (String.join L) = L.flatMap octets := by
  induction L with
  | nil => rfl
  | cons s L ih => rw [String.join_cons, octets_append, ih, List.flatMap_cons]

namespace Json

theorem octets_quote (text : String) :
    octets (quote text) = 0x22 :: (Scan.literalOctets text.toList ++ [0x22]) := by
  rw [quote, octets_append, octets_append, octets_join, List.flatMap_map]
  rfl

end Json

namespace Number

/-- An integer held in the class its text is read back as: a natural number, or a negative
number below zero. A float is not one. -/
def canonical : Number → Bool
  | .natural _ => true
  | .negative value => decide (value.toInt < 0)
  | .float _ => false

end Number

namespace Scalar

/-- A scalar whose number, if it is one, is canonical. -/
def canonical : Scalar → Bool
  | .number value => value.canonical
  | _ => true

end Scalar

namespace Scan

open Json

attribute [-simp] ExceptT.run_bind

theorem digit_ne {b : UInt8} (digit : isDigit b = true) :
    b ≠ 0x6E ∧ b ≠ 0x74 ∧ b ≠ 0x66 ∧ b ≠ 0x2D ∧ b ≠ 0x22 ∧ b ≠ 0x5B ∧ b ≠ 0x7B := by
  simp only [isDigit, Bool.and_eq_true, decide_eq_true_eq, UInt8.le_iff_toNat_le] at digit
  refine ⟨?_, ?_, ?_, ?_, ?_, ?_, ?_⟩ <;> intro e <;> subst e <;> simp at digit

/-- The text of a natural number starts with a digit. -/
theorem octets_toString_cons (n : Nat) :
    ∃ b tail, octets (toString n) = b :: tail ∧ isDigit b = true := by
  rw [octets_toString]
  cases digits : Nat.toDigits 10 n with
  | nil => exact absurd digits Nat.toDigits_ne_nil
  | cons d D =>
    have digit := Nat.isDigit_of_mem_toDigits (by decide) (by decide)
      (show d ∈ Nat.toDigits 10 n by rw [digits]; exact List.mem_cons_self ..)
    exact ⟨_, _, rfl, (isDigit_asciiOctet digit).1⟩

/-- A printed natural number is read back as itself. -/
theorem scalarAt_natural {v : UInt64} {cur : Cursor} {b : UInt8} {rest : List UInt8}
    (h : cur.ahead = octets (toString v.toNat) ++ rest) (closes : Closes rest)
    (lead : cur.ahead.head? = some b) :
    (scalarAt b).run.run cur = (.ok (.number (.natural v)), cur.skip (octets (toString v.toNat)).length) := by
  obtain ⟨b', tail, text, digit⟩ := octets_toString_cons v.toNat
  rw [h, text] at lead
  cases lead
  obtain ⟨n, t, f, m, -, -, -⟩ := digit_ne digit
  have after : Closes (cur.skip (octets (toString v.toNat)).length).ahead := by simp [h, closes]
  have fits : v.toNat ≤ 18446744073709551615 := Nat.le_of_lt_succ (UInt64.toNat_lt_size v)
  simp only [scalarAt, beq_iff_eq, n, t, f, m, digit, ↓reduceIte]
  rw [run_map, number_toString fits h closes, numberTail_closes after]
  simp

theorem octets_minus (text : String) : octets ("-" ++ text) = 0x2D :: octets text := by
  rw [octets_append]
  rfl

/-- A printed negative number is read back as itself. -/
theorem scalarAt_negative {v : Int64} (negative : v.toInt < 0) {cur : Cursor} {b : UInt8}
    {rest : List UInt8} (h : cur.ahead = octets (toString v.toInt) ++ rest) (closes : Closes rest)
    (lead : cur.ahead.head? = some b) :
    (scalarAt b).run.run cur =
      (.ok (.number (.negative v)), cur.skip (octets (toString v.toInt)).length) := by
  have least := Int64.le_toInt v
  cases value : v.toInt with
  | ofNat k => rw [value] at negative; exact absurd negative (by simp)
  | negSucc m =>
    -- the text is a minus sign and the digits of `m + 1`
    have text : toString (Int.negSucc m) = "-" ++ toString (m + 1) := rfl
    rw [value, text, octets_minus] at h
    rw [text, octets_minus]
    rw [h] at lead
    cases lead
    have digits : (cur.skip 1).ahead = octets (toString (m + 1)) ++ rest := by simp [h]
    have after : Closes ((cur.skip 1).skip (octets (toString (m + 1))).length).ahead := by
      rw [Cursor.ahead_skip, digits, List.drop_left]
      exact closes
    have fits : m + 1 ≤ 18446744073709551615 := by omega
    have back : Int64.ofInt (-((m + 1 : Nat) : Int)) = v := by
      rw [← Int64.ofInt_toInt v, value]; rfl
    simp only [scalarAt, beq_iff_eq, show (0x2D : UInt8) ≠ 0x6E by decide,
      show (0x2D : UInt8) ≠ 0x74 by decide, show (0x2D : UInt8) ≠ 0x66 by decide, ↓reduceIte]
    simp only [run_bind, eat_run, run_map]
    rw [number_toString fits digits closes, numberTail_closes after, Cursor.skip_skip]
    simp only [Bool.false_eq_true, ↓reduceIte, show 0 < m + 1 ∧ m + 1 ≤ 9223372036854775808 by omega,
      back, List.length_cons, Nat.add_comm 1]
    rfl

/-- A printed string is read back as itself. -/
theorem scalarAt_string {t : String} {cur : Cursor} {b : UInt8} {rest : List UInt8}
    (h : cur.ahead = octets (quote t) ++ rest) (lead : cur.ahead.head? = some b) :
    (scalarAt b).run.run cur = (.ok (.string t), cur.skip (octets (quote t)).length) := by
  rw [octets_quote] at h ⊢
  rw [h] at lead
  cases lead
  have body : (cur.skip 1).ahead = literalOctets t.toList ++ 0x22 :: rest := by simp [h]
  simp only [scalarAt, beq_iff_eq, show (0x22 : UInt8) ≠ 0x6E by decide,
    show (0x22 : UInt8) ≠ 0x74 by decide, show (0x22 : UInt8) ≠ 0x66 by decide,
    show (0x22 : UInt8) ≠ 0x2D by decide, show isDigit 0x22 = false by decide, Bool.false_eq_true,
    ↓reduceIte, run_bind, eat_run, run_map]
  rw [stringBody_literal body, String.ofList_toList, Cursor.skip_skip]
  simp [Nat.add_comm]

/-- A keyword (`null`, `true`, `false`) is its first octet, which picks it, and the rest of it. -/
theorem scalarAt_keyword {b : UInt8} {L : List UInt8} {s : Scalar}
    (picks : scalarAt b = (do eat; literal L; pure s)) {cur : Cursor} {rest : List UInt8}
    (h : cur.ahead = b :: (L ++ rest)) :
    (scalarAt b).run.run cur = (.ok s, cur.skip (L.length + 1)) := by
  have word : (cur.skip 1).ahead = L ++ rest := by simp [h]
  rw [picks, run_bind, eat_run]
  simp only [run_bind, literal_run L (cur.skip 1) rest word, run_pure, Cursor.skip_skip,
    Nat.add_comm 1]

/-- The reader reads the text of every canonical scalar back to the scalar, whatever closes it. -/
theorem scalarAt_compact (s : Scalar) (canonical : s.canonical) {cur : Cursor} {b : UInt8}
    {rest : List UInt8} (h : cur.ahead = octets (compact s.toJson) ++ rest) (closes : Closes rest)
    (lead : cur.ahead.head? = some b) :
    (scalarAt b).run.run cur = (.ok s, cur.skip (octets (compact s.toJson)).length) := by
  cases s with
  | null =>
    have text : octets (compact Scalar.null.toJson) = [0x6E, 0x75, 0x6C, 0x6C] := rfl
    rw [text] at h ⊢
    rw [h] at lead
    cases lead
    exact scalarAt_keyword rfl h
  | bool value =>
    cases value with
    | true =>
      have text : octets (compact (Scalar.bool true).toJson) = [0x74, 0x72, 0x75, 0x65] := rfl
      rw [text] at h ⊢
      rw [h] at lead
      cases lead
      exact scalarAt_keyword rfl h
    | false =>
      have text : octets (compact (Scalar.bool false).toJson) = [0x66, 0x61, 0x6C, 0x73, 0x65] :=
        rfl
      rw [text] at h ⊢
      rw [h] at lead
      cases lead
      exact scalarAt_keyword rfl h
  | number value =>
    cases value with
    | natural v => exact scalarAt_natural h closes lead
    | negative v =>
      have negative : v.toInt < 0 := by simpa [Scalar.canonical, Number.canonical] using canonical
      exact scalarAt_negative negative h closes lead
    | float v => simp [Scalar.canonical, Number.canonical] at canonical
  | string t => exact scalarAt_string h lead

end Scan

end Switchboard
