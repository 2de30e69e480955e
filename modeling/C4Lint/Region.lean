/-
# Regions of a document

A document has a model section and a views section, and most statements mean something in one of
them only.  A `Tracker` follows the statements of a document and says which region each belongs to.
There are two rules for where a section ends: under `Nesting.flat` at the next statement that is a
single closing brace, under `Nesting.nested` at the brace that closes the section itself.
-/
import C4Lint.Token.Scan

namespace C4Lint

/-- The part of a document that a statement belongs to. -/
inductive Region where
  /-- Neither in the model nor in the views. -/
  | outside
  /-- The section that declares elements and relationships. -/
  | model
  /-- The section that declares views and styles. -/
  | views
deriving DecidableEq, Repr

/-- The region that a statement opens: only the keyword, one space and the brace do. -/
def Region.opened? (statement : Text) : Option Region :=
  if statement = "model \x7b".toList then some .model
  else if statement = "views \x7b".toList then some .views
  else none

/-- How the end of a section is found. -/
inductive Nesting where
  /-- Every statement that is a single closing brace ends the section. -/
  | flat
  /-- The brace that closes the section ends it, and blocks inside it may close before. -/
  | nested
deriving DecidableEq, Repr

/-- What is known about the regions after some statements. -/
structure Tracker where
  /-- The region of the last statement. -/
  region : Region := .outside
  /-- How many braces are open, where only nested sections are counted so.  A closing brace without
  an opening one counts for nothing. -/
  depth : Nat := 0
  /-- How many braces were open before the last statement that opened a section. -/
  openedAt : Nat := 0
deriving DecidableEq, Repr

namespace Tracker

/-- One statement further, where a single closing brace ends the section. -/
def advanceFlat (k : Tracker) (statement : Text) : Tracker :=
  match Region.opened? statement with
  | some region => { k with region }
  | none => if statement = "\x7d".toList then { k with region := .outside } else k

/-- One statement further, where the section ends as soon as no more braces are open than before
it. -/
def advanceNested (k : Tracker) (statement : Text) : Tracker :=
  match Region.opened? statement with
  | some region => ⟨region, k.depth + 1, k.depth⟩
  | none =>
    let braces := Token.braces (Token.scan statement)
    let depth := k.depth + braces.opening - braces.closing
    { k with depth, region := if depth ≤ k.openedAt then .outside else k.region }

/-- One statement further.  The region of that statement is the one of the new tracker. -/
def advance : Nesting → Tracker → Text → Tracker
  | .flat => advanceFlat
  | .nested => advanceNested

/-- The regions of the statements that follow. -/
def regions (nesting : Nesting) (k : Tracker) : List Text → List Region
  | [] => []
  | t :: ts => (advance nesting k t).region :: regions nesting (advance nesting k t) ts

@[simp] theorem length_regions (nesting : Nesting) (k : Tracker) (ts : List Text) :
    (regions nesting k ts).length = ts.length := by
  induction ts generalizing k with
  | nil => rfl
  | cons t ts ih => simp [regions, ih]

end Tracker

end C4Lint
