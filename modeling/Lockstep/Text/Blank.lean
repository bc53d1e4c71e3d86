import Lockstep.Text.Basic

/-!
# Blanks

The characters that count as white space, and trimming.  The set is fixed: the
five controls from tab to carriage return, the space, and the Unicode spaces,
line separators and the byte order mark.  The next-line control (U+0085), the
zero-width space and the separators U+001C to U+001F are not blank.
-/

namespace Lockstep

namespace Text

/-- White space. -/
def isBlank (c : Char) : Bool :=
  let n := c.toNat
  (0x09 ≤ n && n ≤ 0x0D) || n == 0x20 || n == 0xA0 || n == 0x1680 || (0x2000 ≤ n && n ≤ 0x200A) ||
    n == 0x2028 || n == 0x2029 || n == 0x202F || n == 0x205F || n == 0x3000 || n == 0xFEFF

/-- The four characters that end a line of running text. -/
def isLineEnd (c : Char) : Bool :=
  c = '\n' || c = '\r' || c = '\u2028' || c = '\u2029'

/-- The text without the blanks at its start. -/
def trimStart (t : Text) : Text := t.dropWhile isBlank

/-- The text without the blanks at its end. -/
def trimEnd (t : Text) : Text := (t.reverse.dropWhile isBlank).reverse

/-- The text without the blanks at both ends. -/
def trim (t : Text) : Text := trimEnd (trimStart t)

end Text

end Lockstep
