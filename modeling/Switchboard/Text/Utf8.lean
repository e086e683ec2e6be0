/-!
# UTF-8 decoding

Byte sequences are read by the octet classes of RFC 3629: the first octet of a character fixes
how many continuation octets follow and which range the second one may take. `scan` reads one
step from an index: a character and its length, or the longest prefix that could still have
begun a character, which is what a reader replaces by one U+FFFD. `decodeRange` accepts a range
only when it is UTF-8 and otherwise names the index of the first octet that is not, and `lossy`
replaces each such prefix by U+FFFD.
-/

namespace Switchboard
namespace Text
namespace Utf8

/-- One step of reading: a character of `length` octets, or an invalid prefix of `length` octets. -/
inductive Step where
  | char (c : Char) (length : Nat)
  | invalid (length : Nat)

/-- The length of a step, which is at least one. -/
def Step.length : Step → Nat
  | .char _ length => length
  | .invalid length => length

/-- For a first octet of a multi-octet character: the range of the second octet and the length. -/
def leadClass (lead : UInt8) : Option (UInt8 × UInt8 × Nat) :=
  if 0xC2 ≤ lead ∧ lead ≤ 0xDF then some (0x80, 0xBF, 2)
  else if lead = 0xE0 then some (0xA0, 0xBF, 3)
  else if 0xE1 ≤ lead ∧ lead ≤ 0xEC then some (0x80, 0xBF, 3)
  else if lead = 0xED then some (0x80, 0x9F, 3)
  else if 0xEE ≤ lead ∧ lead ≤ 0xEF then some (0x80, 0xBF, 3)
  else if lead = 0xF0 then some (0x90, 0xBF, 4)
  else if 0xF1 ≤ lead ∧ lead ≤ 0xF3 then some (0x80, 0xBF, 4)
  else if lead = 0xF4 then some (0x80, 0x8F, 4)
  else none

/-- The payload bits of a continuation octet. -/
def payload (b : UInt8) : Nat := (b &&& 0x3F).toNat

/-- The code point of a complete character from its octets. -/
def codePoint (octets : List UInt8) : Nat :=
  match octets with
  | [a] => a.toNat
  | [a, b] => (a &&& 0x1F).toNat * 64 + payload b
  | [a, b, c] => (a &&& 0x0F).toNat * 4096 + payload b * 64 + payload c
  | [a, b, c, d] => (a &&& 0x07).toNat * 262144 + payload b * 4096 + payload c * 64 + payload d
  | _ => 0

/-- The octet at `index` when it lies before `stop`. -/
def octetAt (bytes : ByteArray) (stop index : Nat) : Option UInt8 :=
  if index < stop then bytes[index]? else none

/-- Counts how many of the octets after the second, up to `total`, are continuations. -/
def tailRun (bytes : ByteArray) (stop index : Nat) : Nat → Nat
  | 0 => 0
  | remaining + 1 =>
      match octetAt bytes stop index with
      | some b => if 0x80 ≤ b ∧ b ≤ 0xBF then tailRun bytes stop (index + 1) remaining + 1 else 0
      | none => 0

/-- Reads one step at `index`, looking no further than `stop`. -/
def scan (bytes : ByteArray) (stop index : Nat) : Step :=
  match octetAt bytes stop index with
  | none => .invalid 1
  | some lead =>
      if lead < 0x80 then .char (Char.ofNat lead.toNat) 1
      else
        match leadClass lead with
        | none => .invalid 1
        | some (low, high, length) =>
            match octetAt bytes stop (index + 1) with
            | none => .invalid 1
            | some second =>
                if low ≤ second ∧ second ≤ high then
                  let tails := tailRun bytes stop (index + 2) (length - 2)
                  if tails = length - 2 then
                    let octets := (List.range length).filterMap fun k => bytes[index + k]?
                    .char (Char.ofNat (codePoint octets)) length
                  else .invalid (tails + 2)
                else .invalid 1

/-- Decodes the octets of `[index, stop)`: the text, or the index of the first invalid octet. -/
def decodeFrom (bytes : ByteArray) (stop : Nat) (acc : String) (index : Nat) : Except Nat String :=
  if index < stop then
    match scan bytes stop index with
    | .char c length => decodeFrom bytes stop (acc.push c) (index + max length 1)
    | .invalid _ => .error index
  else .ok acc
termination_by stop - index

/-- The text of the octets in `[start, stop)`, or the index of the first octet that is not UTF-8. -/
def decodeRange (bytes : ByteArray) (start stop : Nat) : Except Nat String :=
  decodeFrom bytes stop "" start

/-- Reads `[index, size)`, replacing each invalid prefix by U+FFFD. -/
def lossyFrom (bytes : ByteArray) (acc : String) (index : Nat) : String :=
  if index < bytes.size then
    match scan bytes bytes.size index with
    | .char c length => lossyFrom bytes (acc.push c) (index + max length 1)
    | .invalid length => lossyFrom bytes (acc.push '�') (index + max length 1)
  else acc
termination_by bytes.size - index

/-- The text of a byte sequence with each invalid prefix replaced by U+FFFD. -/
def lossy (bytes : ByteArray) : String :=
  lossyFrom bytes "" 0

end Utf8
end Text
end Switchboard
