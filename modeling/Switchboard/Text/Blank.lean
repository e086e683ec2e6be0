/-!
# White space

The characters with the Unicode property White_Space: the ASCII tab, line feed, vertical tab, form
feed, carriage return and space, the next-line control, the no-break space, the Ogham space mark,
the eleven spaces from U+2000 to U+200A, the line and paragraph separators, the narrow no-break
space, the medium mathematical space and the ideographic space. Trimming removes them from both
ends of a text.
-/

namespace Switchboard
namespace Text

/-- Whether a character has the Unicode property White_Space. -/
def isBlank (c : Char) : Bool :=
  let n := c.toNat
  (0x09 ≤ n && n ≤ 0x0D) || n == 0x20 || n == 0x85 || n == 0xA0 || n == 0x1680 ||
    (0x2000 ≤ n && n ≤ 0x200A) || n == 0x2028 || n == 0x2029 || n == 0x202F || n == 0x205F ||
    n == 0x3000

/-- A text without the white space at its ends. -/
def trim (text : String) : String :=
  String.ofList ((text.toList.dropWhile isBlank).reverse.dropWhile isBlank).reverse

theorem isBlank_of_isWhitespace {c : Char} (h : c.isWhitespace = true) : isBlank c = true := by
  simp only [Char.isWhitespace, Bool.or_eq_true, decide_eq_true_eq] at h
  simp only [isBlank, Bool.or_eq_true, Bool.and_eq_true, beq_iff_eq, decide_eq_true_eq]
  rcases h with ((h | h) | h) | h <;> subst h <;> decide

end Text
end Switchboard
