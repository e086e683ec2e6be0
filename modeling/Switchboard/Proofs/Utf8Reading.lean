import Mathlib
import Switchboard.Text.Utf8

/-!
# Reading back what the encoder writes

The decoder of `Text.Utf8` reads the encoding Lean gives a string back to the string: every
character's octets form one step of `scan` of the character's length, so `decodeRange` over the
octets of a string's encoding returns the string. The reader of JSON text relies on this for every
run of a string literal that holds no escapes.

The octets of a byte array are handled as the list of them from a place on: `ahead` below says that
the octets from `index` on are `L` followed by whatever comes after it.
-/

namespace Switchboard

theorem byteArray_getElem?_eq (bytes : ByteArray) (i : Nat) :
    bytes[i]? = bytes.data.toList[i]? := by
  by_cases inside : i < bytes.size
  · rw [getElem?_pos bytes i inside, Array.getElem?_toList, ByteArray.getElem_eq_getElem_data,
      Array.getElem?_eq_getElem]
  · rw [getElem?_neg bytes i inside, Array.getElem?_toList, Array.getElem?_eq_none]
    exact Nat.le_of_not_lt inside

theorem byteArray_getElem?_of_drop {bytes : ByteArray} {index : Nat} {L rest : List UInt8}
    (ahead : bytes.data.toList.drop index = L ++ rest) (k : Nat) (hk : k < L.length) :
    bytes[index + k]? = L[k]? := by
  rw [byteArray_getElem?_eq, ← List.getElem?_drop, ahead, List.getElem?_append_left hk]

/-- The octets of a string's encoding. -/
theorem toUTF8_data_toList (s : String) :
    s.toUTF8.data.toList = s.toList.flatMap String.utf8EncodeChar := by
  conv => lhs; rw [← @String.ofList_toList s]
  rw [String.toUTF8_eq_toByteArray, String.toByteArray_ofList, List.utf8Encode,
    List.data_toByteArray, List.toList_toArray]

namespace Text
namespace Utf8

/-! ## Octets as numbers -/

theorem toNat_ofNat_add (x : Nat) (n : UInt8) (fits : x + n.toNat < 256) :
    (UInt8.ofNat x + n).toNat = x + n.toNat := by
  rw [UInt8.toNat_add, UInt8.toNat_ofNat']
  omega

theorem toNat_and_low (a : UInt8) (k : Nat) (mask : UInt8) (h : mask.toNat = 2 ^ k - 1) :
    (a &&& mask).toNat = a.toNat % 2 ^ k := by
  rw [UInt8.toNat_and, h, Nat.and_two_pow_sub_one_eq_mod]

theorem payload_eq (b : UInt8) : payload b = b.toNat % 64 :=
  toNat_and_low b 6 0x3F rfl

theorem octetAt_of_drop {bytes : ByteArray} {stop index : Nat} {L rest : List UInt8}
    (ahead : bytes.data.toList.drop index = L ++ rest) (fits : index + L.length ≤ stop)
    (k : Nat) (hk : k < L.length) : octetAt bytes stop (index + k) = L[k]? := by
  rw [octetAt, if_pos (by omega), byteArray_getElem?_of_drop ahead k hk]

/-- The octets a step reads, collected from its start. -/
theorem filterMap_range_of_drop {bytes : ByteArray} {index : Nat} {L rest : List UInt8}
    (ahead : bytes.data.toList.drop index = L ++ rest) :
    (List.range L.length).filterMap (fun k => bytes[index + k]?) = L := by
  induction L generalizing index with
  | nil => rfl
  | cons x L ih =>
    have first : bytes[index + 0]? = some x := byteArray_getElem?_of_drop ahead 0 (by simp)
    have later : bytes.data.toList.drop (index + 1) = L ++ rest := by
      rw [← List.drop_drop, ahead]; rfl
    rw [List.length_cons, List.range_succ_eq_map, List.filterMap_cons, first,
      List.filterMap_map]
    refine congrArg (x :: ·) (Eq.trans ?_ (ih later))
    congr 1
    funext k
    simp only [Function.comp_apply]
    congr 1
    omega

/-! ## One character -/

/-- The validity of a character as bounds on its code point. -/
theorem toNat_valid (c : Char) : c.toNat < 0xD800 ∨ (0xDFFF < c.toNat ∧ c.toNat < 0x110000) := by
  have valid := c.valid
  simpa [UInt32.isValidChar, Nat.isValidChar] using valid

/-- A lead octet of a three-octet character admits every second octet RFC 3629 allows after it:
after 0xE0 no overlong form, after 0xED no surrogate. -/
theorem leadClass_three {a b : UInt8} (lead : 0xE0 ≤ a.toNat ∧ a.toNat ≤ 0xEF)
    (second : 0x80 ≤ b.toNat ∧ b.toNat ≤ 0xBF) (overlong : a.toNat = 0xE0 → 0xA0 ≤ b.toNat)
    (surrogate : a.toNat = 0xED → b.toNat ≤ 0x9F) :
    ∃ low high, leadClass a = some (low, high, 3) ∧ low ≤ b ∧ b ≤ high := by
  simp only [leadClass, UInt8.le_iff_toNat_le, ← UInt8.toNat_inj, UInt8.reduceToNat]
  -- down the table of leads to the row of `a`, past the two-octet leads
  rw [if_neg (by omega)]
  by_cases e0 : a.toNat = 0xE0
  · rw [if_pos e0]
    refine ⟨_, _, rfl, ?_, ?_⟩ <;> simp only [UInt8.reduceToNat] <;> omega
  rw [if_neg e0]
  by_cases plain : 0xE1 ≤ a.toNat ∧ a.toNat ≤ 0xEC
  · rw [if_pos plain]
    refine ⟨_, _, rfl, ?_, ?_⟩ <;> simp only [UInt8.reduceToNat] <;> omega
  rw [if_neg plain]
  by_cases ed : a.toNat = 0xED
  · rw [if_pos ed]
    refine ⟨_, _, rfl, ?_, ?_⟩ <;> simp only [UInt8.reduceToNat] <;> omega
  rw [if_neg ed, if_pos (by omega)]
  refine ⟨_, _, rfl, ?_, ?_⟩ <;> simp only [UInt8.reduceToNat] <;> omega

/-- A lead octet of a four-octet character admits every second octet RFC 3629 allows after it:
after 0xF0 no overlong form, after 0xF4 nothing past U+10FFFF. -/
theorem leadClass_four {a b : UInt8} (lead : 0xF0 ≤ a.toNat ∧ a.toNat ≤ 0xF4)
    (second : 0x80 ≤ b.toNat ∧ b.toNat ≤ 0xBF) (overlong : a.toNat = 0xF0 → 0x90 ≤ b.toNat)
    (beyond : a.toNat = 0xF4 → b.toNat ≤ 0x8F) :
    ∃ low high, leadClass a = some (low, high, 4) ∧ low ≤ b ∧ b ≤ high := by
  simp only [leadClass, UInt8.le_iff_toNat_le, ← UInt8.toNat_inj, UInt8.reduceToNat]
  -- down the table of leads to the row of `a`, past the two- and three-octet leads
  rw [if_neg (by omega), if_neg (by omega), if_neg (by omega), if_neg (by omega),
    if_neg (by omega)]
  by_cases f0 : a.toNat = 0xF0
  · rw [if_pos f0]
    refine ⟨_, _, rfl, ?_, ?_⟩ <;> simp only [UInt8.reduceToNat] <;> omega
  rw [if_neg f0]
  by_cases plain : 0xF1 ≤ a.toNat ∧ a.toNat ≤ 0xF3
  · rw [if_pos plain]
    refine ⟨_, _, rfl, ?_, ?_⟩ <;> simp only [UInt8.reduceToNat] <;> omega
  rw [if_neg plain, if_pos (by omega)]
  refine ⟨_, _, rfl, ?_, ?_⟩ <;> simp only [UInt8.reduceToNat] <;> omega

section Scan

variable {bytes : ByteArray} {stop index : Nat} {c : Char} {rest : List UInt8}

theorem scan_of_one (ahead : bytes.data.toList.drop index = String.utf8EncodeChar c ++ rest)
    (fits : index + 1 ≤ stop) (high : c.toNat ≤ 0x7F) : scan bytes stop index = .char c 1 := by
  have enc : String.utf8EncodeChar c = [UInt8.ofNat c.toNat] := by
    simp [String.utf8EncodeChar, high]
  rw [enc] at ahead
  have lead := octetAt_of_drop ahead fits 0 (by simp)
  simp only [Nat.add_zero, List.getElem?_cons_zero] at lead
  have value : (UInt8.ofNat c.toNat).toNat = c.toNat := by
    rw [UInt8.toNat_ofNat']; omega
  simp only [scan, lead]
  rw [if_pos (by simp only [UInt8.lt_iff_toNat_lt, value, UInt8.reduceToNat]; omega), value,
    Char.ofNat_toNat]

theorem scan_of_two (ahead : bytes.data.toList.drop index = String.utf8EncodeChar c ++ rest)
    (fits : index + 2 ≤ stop) (low : 0x7F < c.toNat) (high : c.toNat ≤ 0x7FF) :
    scan bytes stop index = .char c 2 := by
  have enc : String.utf8EncodeChar c =
      [UInt8.ofNat (c.toNat / 64 % 32) + 192, UInt8.ofNat (c.toNat % 64) + 128] := by
    simp [String.utf8EncodeChar, show ¬ c.toNat ≤ 127 by omega, high]
  rw [enc] at ahead
  have t0 := toNat_ofNat_add (c.toNat / 64 % 32) 192 (by simp; omega)
  have t1 := toNat_ofNat_add (c.toNat % 64) 128 (by simp; omega)
  have octets := filterMap_range_of_drop ahead
  have o0 := octetAt_of_drop ahead fits 0 (by simp)
  have o1 := octetAt_of_drop ahead fits 1 (by simp)
  simp only [UInt8.reduceToNat] at t0 t1
  simp only [Nat.add_zero, List.getElem?_cons_zero, List.getElem?_cons_succ, List.length_cons,
    List.length_nil] at o0 o1 octets
  generalize UInt8.ofNat (c.toNat / 64 % 32) + 192 = a at *
  generalize UInt8.ofNat (c.toNat % 64) + 128 = b at *
  have lead : leadClass a = some (0x80, 0xBF, 2) := by
    simp only [leadClass, UInt8.le_iff_toNat_le, t0, UInt8.reduceToNat]
    rw [if_pos (by omega)]
  have point : codePoint [a, b] = c.toNat := by
    simp only [codePoint, toNat_and_low a 5 0x1F rfl, payload_eq, t0, t1]
    omega
  simp only [scan, o0, o1, lead, octets, point]
  rw [if_neg (by simp only [UInt8.lt_iff_toNat_lt, t0, UInt8.reduceToNat]; omega),
    if_pos (by simp only [UInt8.le_iff_toNat_le, t1, UInt8.reduceToNat]; omega)]
  simp [tailRun, Char.ofNat_toNat]

theorem scan_of_three (ahead : bytes.data.toList.drop index = String.utf8EncodeChar c ++ rest)
    (fits : index + 3 ≤ stop) (low : 0x7FF < c.toNat) (high : c.toNat ≤ 0xFFFF) :
    scan bytes stop index = .char c 3 := by
  have enc : String.utf8EncodeChar c =
      [UInt8.ofNat (c.toNat / 4096 % 16) + 224, UInt8.ofNat (c.toNat / 64 % 64) + 128,
        UInt8.ofNat (c.toNat % 64) + 128] := by
    simp [String.utf8EncodeChar, show ¬ c.toNat ≤ 127 by omega, show ¬ c.toNat ≤ 2047 by omega,
      high]
  rw [enc] at ahead
  have t0 := toNat_ofNat_add (c.toNat / 4096 % 16) 224 (by simp; omega)
  have t1 := toNat_ofNat_add (c.toNat / 64 % 64) 128 (by simp; omega)
  have t2 := toNat_ofNat_add (c.toNat % 64) 128 (by simp; omega)
  have octets := filterMap_range_of_drop ahead
  have o0 := octetAt_of_drop ahead fits 0 (by simp)
  have o1 := octetAt_of_drop ahead fits 1 (by simp)
  have o2 := octetAt_of_drop ahead fits 2 (by simp)
  simp only [UInt8.reduceToNat] at t0 t1 t2
  simp only [Nat.add_zero, List.getElem?_cons_zero, List.getElem?_cons_succ, List.length_cons,
    List.length_nil] at o0 o1 o2 octets
  generalize UInt8.ofNat (c.toNat / 4096 % 16) + 224 = a at *
  generalize UInt8.ofNat (c.toNat / 64 % 64) + 128 = b at *
  generalize UInt8.ofNat (c.toNat % 64) + 128 = d at *
  have surrogate := toNat_valid c
  obtain ⟨lowest, highest, lead, above, below⟩ :=
    leadClass_three (a := a) (b := b) (by omega) (by omega) (by omega) (by omega)
  have point : codePoint [a, b, d] = c.toNat := by
    simp only [codePoint, toNat_and_low a 4 0x0F rfl, payload_eq, t0, t1, t2]
    omega
  simp only [scan, o0, o1, lead, octets, point, above, below, and_self, if_true]
  rw [if_neg (by simp only [UInt8.lt_iff_toNat_lt, t0, UInt8.reduceToNat]; omega)]
  simp [tailRun, o2, UInt8.le_iff_toNat_le, t2, Char.ofNat_toNat]
  omega

theorem scan_of_four (ahead : bytes.data.toList.drop index = String.utf8EncodeChar c ++ rest)
    (fits : index + 4 ≤ stop) (low : 0xFFFF < c.toNat) :
    scan bytes stop index = .char c 4 := by
  have enc : String.utf8EncodeChar c =
      [UInt8.ofNat (c.toNat / 262144 % 8) + 240, UInt8.ofNat (c.toNat / 4096 % 64) + 128,
        UInt8.ofNat (c.toNat / 64 % 64) + 128, UInt8.ofNat (c.toNat % 64) + 128] := by
    simp [String.utf8EncodeChar, show ¬ c.toNat ≤ 127 by omega, show ¬ c.toNat ≤ 2047 by omega,
      show ¬ c.toNat ≤ 65535 by omega]
  rw [enc] at ahead
  have t0 := toNat_ofNat_add (c.toNat / 262144 % 8) 240 (by simp; omega)
  have t1 := toNat_ofNat_add (c.toNat / 4096 % 64) 128 (by simp; omega)
  have t2 := toNat_ofNat_add (c.toNat / 64 % 64) 128 (by simp; omega)
  have t3 := toNat_ofNat_add (c.toNat % 64) 128 (by simp; omega)
  have octets := filterMap_range_of_drop ahead
  have o0 := octetAt_of_drop ahead fits 0 (by simp)
  have o1 := octetAt_of_drop ahead fits 1 (by simp)
  have o2 := octetAt_of_drop ahead fits 2 (by simp)
  have o3 := octetAt_of_drop ahead fits 3 (by simp)
  simp only [UInt8.reduceToNat] at t0 t1 t2 t3
  simp only [Nat.add_zero, List.getElem?_cons_zero, List.getElem?_cons_succ, List.length_cons,
    List.length_nil] at o0 o1 o2 o3 octets
  generalize UInt8.ofNat (c.toNat / 262144 % 8) + 240 = a at *
  generalize UInt8.ofNat (c.toNat / 4096 % 64) + 128 = b at *
  generalize UInt8.ofNat (c.toNat / 64 % 64) + 128 = d at *
  generalize UInt8.ofNat (c.toNat % 64) + 128 = e at *
  have bounded := toNat_valid c
  obtain ⟨lowest, highest, lead, above, below⟩ :=
    leadClass_four (a := a) (b := b) (by omega) (by omega) (by omega) (by omega)
  have point : codePoint [a, b, d, e] = c.toNat := by
    simp only [codePoint, toNat_and_low a 3 0x07 rfl, payload_eq, t0, t1, t2, t3]
    omega
  simp only [scan, o0, o1, lead, octets, point, above, below, and_self, if_true]
  rw [if_neg (by simp only [UInt8.lt_iff_toNat_lt, t0, UInt8.reduceToNat]; omega)]
  simp [tailRun, o2, o3, UInt8.le_iff_toNat_le, t2, t3, Char.ofNat_toNat,
    show c.toNat / 64 % 64 ≤ 63 by omega, show c.toNat % 64 ≤ 63 by omega]

/-- A character's octets are one step of `scan`, as long as the character's encoding. -/
theorem scan_encodeChar (ahead : bytes.data.toList.drop index = String.utf8EncodeChar c ++ rest)
    (fits : index + c.utf8Size ≤ stop) : scan bytes stop index = .char c c.utf8Size := by
  rcases Char.utf8Size_eq c with one | two | three | four
  · have bound := Char.utf8Size_eq_one_iff.1 one
    rw [UInt32.le_iff_toNat_le] at bound
    rw [one] at fits ⊢
    exact scan_of_one ahead fits bound
  · have bounds := Char.utf8Size_eq_two_iff.1 two
    rw [UInt32.lt_iff_toNat_lt, UInt32.le_iff_toNat_le] at bounds
    rw [two] at fits ⊢
    exact scan_of_two ahead fits bounds.1 bounds.2
  · have bounds := Char.utf8Size_eq_three_iff.1 three
    rw [UInt32.lt_iff_toNat_lt, UInt32.le_iff_toNat_le] at bounds
    rw [three] at fits ⊢
    exact scan_of_three ahead fits bounds.1 bounds.2
  · have bound := Char.utf8Size_eq_four_iff.1 four
    rw [UInt32.lt_iff_toNat_lt] at bound
    rw [four] at fits ⊢
    exact scan_of_four ahead fits bound

end Scan

/-! ## Texts -/

/-- Decoding the octets of the encoding of `cs` appends `cs` to what was decoded before. -/
theorem decodeFrom_encode {bytes : ByteArray} {rest : List UInt8} (cs : List Char) {acc : String}
    {index stop : Nat}
    (ahead : bytes.data.toList.drop index = cs.flatMap String.utf8EncodeChar ++ rest)
    (ends : stop = index + (cs.flatMap String.utf8EncodeChar).length) :
    decodeFrom bytes stop acc index = .ok (acc ++ String.ofList cs) := by
  induction cs generalizing acc index with
  | nil =>
    rw [decodeFrom, if_neg (by simp at ends; omega)]
    simp
  | cons c cs ih =>
    rw [List.flatMap_cons, List.append_assoc] at ahead
    rw [List.flatMap_cons, List.length_append, String.length_utf8EncodeChar] at ends
    have later : bytes.data.toList.drop (index + c.utf8Size) =
        cs.flatMap String.utf8EncodeChar ++ rest := by
      rw [← List.drop_drop, ahead, ← String.length_utf8EncodeChar, List.drop_left]
    rw [decodeFrom, if_pos (by have := Char.utf8Size_pos c; omega),
      scan_encodeChar ahead (by omega)]
    dsimp only
    rw [Nat.max_eq_left (Nat.succ_le_of_lt (Char.utf8Size_pos c)), ih later (by omega),
      String.ofList_cons, ← String.append_assoc, String.append_singleton]

/-- `decodeRange` reads the octets of the encoding of `cs` back to `cs`. -/
theorem decodeRange_encode {bytes : ByteArray} {rest : List UInt8} (cs : List Char) {start : Nat}
    (ahead : bytes.data.toList.drop start = cs.flatMap String.utf8EncodeChar ++ rest) :
    decodeRange bytes start (start + (cs.flatMap String.utf8EncodeChar).length) =
      .ok (String.ofList cs) := by
  rw [decodeRange, decodeFrom_encode cs ahead rfl, String.empty_append]

end Utf8
end Text

end Switchboard
