/-
# Statements of a document

A document is read line by line.  A line holds at most one statement: what is left when blanks are
trimmed and a comment is dropped.  A comment begins at the first `#` or `//` that does not stand
inside a string, where every quote opens or closes a string.
-/
import C4Lint.Text.Blank
import C4Lint.Text.Line

namespace C4Lint

/-- A statement together with the line that holds it. -/
structure Statement where
  /-- The number of the line, the first line having number 1. -/
  line : Nat
  /-- The trimmed line without its comment. -/
  text : Text
  /-- The trimmed line with its comment, shown as the context of an issue. -/
  source : Text
deriving DecidableEq, Repr

namespace Statement

/-- Whether a comment begins with the character `c` when `t` follows it. -/
def opensComment (c : Char) (t : Text) : Bool :=
  c == '#' || (c == '/' && t.head? == some '/')

/-- The part of a line before its comment; `quoted` says whether a string is open at its start. -/
def beforeComment (quoted : Bool) : Text → Text
  | [] => []
  | c :: t =>
    if c = '"' then c :: beforeComment (!quoted) t
    else if !quoted && opensComment c t then []
    else c :: beforeComment quoted t

/-- The line without its comment and without blanks at its ends. -/
def stripComment (line : Text) : Text := Text.trimEnd (beforeComment false (Text.trim line))

/-- The statement on a line, if there is one. -/
def ofLine? (number : Nat) (line : Text) : Option Statement :=
  match stripComment line with
  | [] => none
  | c :: t => some ⟨number, c :: t, Text.trim line⟩

/-- The statements on the lines, of which the first has the number `number`. -/
def ofLines (number : Nat) : List Text → List Statement
  | [] => []
  | l :: ls => (ofLine? number l).toList ++ ofLines (number + 1) ls

/-- The statements of a document, in order. -/
def all (content : Text) : List Statement := ofLines 1 (Text.lines content)

theorem ofLine?_eq_some_iff {n : Nat} {l : Text} {s : Statement} :
    ofLine? n l = some s ↔ stripComment l ≠ [] ∧ s = ⟨n, stripComment l, Text.trim l⟩ := by
  unfold ofLine?
  cases h : stripComment l with
  | nil => simp
  | cons c t => simp [eq_comm]

end Statement

end C4Lint
