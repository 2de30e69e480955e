/-
# Blank characters and trimming

A character is blank when it has the Unicode property White_Space.  Blanks separate tokens, may
surround a line without changing it, and may stand on either side of a brace in the searches of
the structural checks.  The main statement is `trim_eq`: trimming takes a run of blanks from each
end and nothing else.
-/
import C4Lint.Text.Basic
import C4Lint.Text.Ranges

namespace C4Lint.Text

/-- The 25 code points with the property White_Space. -/
def blankRanges : List CodeRange :=
  [⟨0x09, 0x0D⟩, ⟨0x20, 0x20⟩, ⟨0x85, 0x85⟩, ⟨0xA0, 0xA0⟩, ⟨0x1680, 0x1680⟩, ⟨0x2000, 0x200A⟩,
   ⟨0x2028, 0x2029⟩, ⟨0x202F, 0x202F⟩, ⟨0x205F, 0x205F⟩, ⟨0x3000, 0x3000⟩]

/-- Whether a character separates tokens: tabs, line ends, spaces of every width. -/
def isBlank (c : Char) : Bool := CodeRange.covers blankRanges c.toNat

/-- The text without the blanks at its front. -/
def trimStart (t : Text) : Text := t.dropWhile isBlank

/-- The text without the blanks at its end. -/
def trimEnd (t : Text) : Text := (t.reverse.dropWhile isBlank).reverse

/-- The text without the blanks at both ends. -/
def trim (t : Text) : Text := trimEnd (trimStart t)

/-- The blanks taken from the front, and what is left of the text. -/
theorem takeWhile_append_trimStart (t : Text) : t.takeWhile isBlank ++ trimStart t = t :=
  List.takeWhile_append_dropWhile

/-- The text is what `trimEnd` leaves, followed by blanks. -/
theorem trimEnd_append (t : Text) :
    trimEnd t ++ (t.reverse.takeWhile isBlank).reverse = t := by
  rw [trimEnd, ← List.reverse_append, List.takeWhile_append_dropWhile, List.reverse_reverse]

/-- Trimming takes a run of blanks from each end of the text and nothing else. -/
theorem trim_eq (t : Text) :
    ∃ u v : Text, t = u ++ trim t ++ v ∧ (∀ c ∈ u, isBlank c = true) ∧
      ∀ c ∈ v, isBlank c = true := by
  refine ⟨t.takeWhile isBlank, ((trimStart t).reverse.takeWhile isBlank).reverse, ?_, ?_, ?_⟩
  · rw [List.append_assoc, trim, trimEnd_append, takeWhile_append_trimStart]
  · intro c hc
    exact List.all_eq_true.1 List.all_takeWhile c hc
  · intro c hc
    exact List.all_eq_true.1 List.all_takeWhile c (List.mem_reverse.1 hc)

end C4Lint.Text
