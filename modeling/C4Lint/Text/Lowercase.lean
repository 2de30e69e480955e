/-
# Lower case

The lower-case form of a text, by the full mapping of Unicode.  Three things set it apart from
mapping the characters one by one: a capital I with a dot above becomes two characters, a capital
sigma at the end of a word has a form of its own, and whether it stands there depends on the cased
characters around it, those that case ignores being skipped.
-/
import C4Lint.Text.Basic
import C4Lint.Text.Casing

namespace C4Lint.Text

namespace CaseShift

/-- Whether the code point `n` is one of the run. -/
def applies (s : CaseShift) (n : Nat) : Bool :=
  s.first ≤ n && n ≤ s.last && (n - s.first) % s.step == 0

end CaseShift

/-- The lower-case form of a character that has one other character for it, and the character
itself otherwise. -/
def lowerChar (c : Char) : Char :=
  if c.toNat < 0x80 then c.toLower
  else
    match lowercaseShifts.find? fun s => s.applies c.toNat with
    | some s => Char.ofNat (s.target + (c.toNat - s.first))
    | none => c

/-- Whether a character has case: letters, and a few signs made from letters. -/
def isCased (c : Char) : Bool :=
  if c.toNat < 0x80 then c.isAlpha else CodeRange.covers casedRanges c.toNat

/-- Whether a character is skipped when the case around another one is looked at. -/
def isCaseIgnorable (c : Char) : Bool :=
  if c.toNat < 0x80 then c ∈ ['\'', '.', ':', '^', '\x60']
  else CodeRange.covers caseIgnorableRanges c.toNat

/-- Whether the first character of `t` that case does not ignore is a cased one. -/
def beginsCased (t : Text) : Bool := ((t.dropWhile isCaseIgnorable).head?.map isCased).getD false

/-- The lower-case form of `c` between the reversed text `before` it and the text `after` it.  A
capital sigma is final when a cased character comes before it and none comes after it. -/
def lowerForm (before : Text) (c : Char) (after : Text) : Text :=
  if c = 'Σ' then [if beginsCased before && !beginsCased after then 'ς' else 'σ']
  else if c = 'İ' then ['i', '\u0307']
  else [lowerChar c]

/-- The lower-case form of a text that stands after the reversed text `before`. -/
def lowercaseAfter (before : Text) : Text → Text
  | [] => []
  | c :: t => lowerForm before c t ++ lowercaseAfter (c :: before) t

/-- The lower-case form of a text. -/
def lowercase (t : Text) : Text := lowercaseAfter [] t

end C4Lint.Text
