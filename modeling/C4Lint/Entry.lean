/-
# Entries of a document

An entry is a statement in its region together with its reading.  The entries of a document are all
that the later checks look at, apart from the structural checks, which look at the whole text.
-/
import C4Lint.Statement
import C4Lint.Declaration.Form

namespace C4Lint

/-- A statement in its place in the document. -/
structure Entry where
  /-- The statement. -/
  statement : Statement
  /-- The region that the statement belongs to. -/
  region : Region
deriving DecidableEq, Repr

namespace Entry

/-- What the statement comes to in its region. -/
def reading (e : Entry) : Reading := Reading.of e.region e.statement.text

/-- The number of the line that holds the statement. -/
def line (e : Entry) : Nat := e.statement.line

/-- The entries of the statements that follow on those which the tracker has seen. -/
def ofStatements (nesting : Nesting) (k : Tracker) (ss : List Statement) : List Entry :=
  List.zipWith Entry.mk ss (Tracker.regions nesting k (ss.map Statement.text))

/-- The entries of a document. -/
def all (nesting : Nesting) (content : Text) : List Entry :=
  ofStatements nesting {} (Statement.all content)

/-- The name that an entry gives to the workspace. -/
def workspace? (e : Entry) : Option Text :=
  match e.reading with
  | .declared (.workspace name) => some name
  | _ => none

@[simp] theorem ofStatements_nil (nesting : Nesting) (k : Tracker) :
    ofStatements nesting k [] = [] := rfl

@[simp] theorem ofStatements_cons (nesting : Nesting) (k : Tracker) (s : Statement)
    (ss : List Statement) :
    ofStatements nesting k (s :: ss)
      = ⟨s, (Tracker.advance nesting k s.text).region⟩
        :: ofStatements nesting (Tracker.advance nesting k s.text) ss := rfl

end Entry

end C4Lint
