/-
# Word characters and name characters

Names of the architecture language are runs of letters, digits and underscores of any script;
references to nested elements join such words by dots.  Blanks, quotes and braces are in neither
class, which is what keeps names, strings and blocks apart in the tokens of a statement.
-/
import C4Lint.Text.Blank
import C4Lint.Text.Alphanumeric

namespace C4Lint.Text

/-- Whether a character is a letter or a numeral, in any script. -/
def isAlphanumeric (c : Char) : Bool :=
  if c.toNat < 0x80 then c.isAlphanum else CodeRange.covers alphanumericRanges c.toNat

/-- Whether a character may stand in a plain word. -/
def isWordChar (c : Char) : Bool := isAlphanumeric c || c == '_'

/-- Whether a character may stand in a name, which is a word or words joined by dots. -/
def isNameChar (c : Char) : Bool := isWordChar c || c == '.'

theorem isNameChar_of_isWordChar {c : Char} (h : isWordChar c = true) : isNameChar c = true := by
  simp [isNameChar, h]

end C4Lint.Text
