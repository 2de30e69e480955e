/-
# Lines of a text

A line ends at a line feed; a carriage return right before the line feed belongs to the line end.
A text that ends in a line feed has no further, empty line after it.
-/
import C4Lint.Text.Basic

namespace C4Lint.Text

/-- A line without the carriage return of a two-character line end. -/
def dropReturn (line : Text) : Text :=
  if line.getLast? = some '\r' then line.dropLast else line

/-- The lines whose contents stand between line feeds.  All pieces but the last were closed by a
line feed; the last is a line only if something stands in it. -/
def linesOfPieces : List Text → List Text
  | [] => []
  | [piece] => if piece.isEmpty then [] else [piece]
  | piece :: next :: rest => dropReturn piece :: linesOfPieces (next :: rest)

/-- The lines of a text, without their line ends. -/
def lines (t : Text) : List Text := linesOfPieces (t.splitOn '\n')

/-- The text in which every line is closed by a line feed. -/
def unlines (ls : List Text) : Text := ls.flatMap (· ++ ['\n'])

@[simp] theorem unlines_nil : unlines [] = [] := rfl

@[simp] theorem unlines_cons (l : Text) (ls : List Text) :
    unlines (l :: ls) = l ++ '\n' :: unlines ls := by
  simp [unlines]

end C4Lint.Text
