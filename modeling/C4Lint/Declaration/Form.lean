/-
# Which declaration a statement is meant to be

A statement is meant as a declaration of the first form that its region admits and its words
suggest.  The order of the forms matters, because the words of one form may stand in the strings of
another.
-/
import C4Lint.Declaration.Grammar
import C4Lint.Region

namespace C4Lint

/-- The forms of declarations, each with a grammar of its own. -/
inductive Form where
  /-- The workspace. -/
  | workspace
  /-- An element of one kind. -/
  | element (kind : ElementKind)
  /-- A relationship. -/
  | relationship
  /-- A view of any kind. -/
  | view
  /-- The styles. -/
  | styles
deriving DecidableEq, Repr

namespace Form

/-- The forms in the order in which they claim a statement. -/
def all : List Form :=
  [workspace, element .person, element .softwareSystem, element .container, relationship, view,
   styles]

/-- Whether declarations of the form may stand in a region. -/
def admittedIn : Form → Region → Bool
  | workspace, _ => true
  | element _, region => region = .model
  | relationship, region => region = .model
  | view, region => region = .views
  | styles, region => region = .views

/-- Whether the words of a statement suggest a declaration of the form. -/
def suggestedBy : Form → Text → Bool
  | workspace, t => "workspace".toList.isPrefixOf t
  | element kind, t => t.contains '=' && Text.occursIn kind.keyword t
  | relationship, t => Text.occursIn "->".toList t
  | view, t => ViewKind.all.any fun kind => Text.occursIn kind.keyword t
  | styles, t => "styles".toList.isPrefixOf t

/-- The form that a statement is meant to have, if any. -/
def of? (region : Region) (statement : Text) : Option Form :=
  all.find? fun f => f.admittedIn region && f.suggestedBy statement

/-- The declaration of the form that a statement makes, if it follows the grammar of the form. -/
def read? : Form → Text → Option Declaration
  | workspace, t => Declaration.workspace? (Token.scan t)
  | element kind, t => Declaration.element? kind (Token.scan t)
  | relationship, t => Declaration.relationship? (Token.scan t)
  | view, t => Declaration.view? (Token.scan t)
  | styles, t => Declaration.styles? t

theorem mem_all (f : Form) : f ∈ all := by
  cases f with
  | element kind => cases kind <;> simp [all]
  | _ => simp [all]

end Form

/-- What a statement comes to. -/
inductive Reading where
  /-- A declaration. -/
  | declared (d : Declaration)
  /-- A statement meant as a declaration of the form, against its grammar. -/
  | malformed (f : Form)
  /-- A statement that is not meant as a declaration. -/
  | ignored
deriving DecidableEq, Repr

namespace Reading

/-- The reading of a statement in a region. -/
def of (region : Region) (statement : Text) : Reading :=
  match Form.of? region statement with
  | none => ignored
  | some f =>
    match f.read? statement with
    | some d => declared d
    | none => malformed f

/-- The declaration of a reading, if it is one. -/
def declaration? : Reading → Option Declaration
  | declared d => some d
  | malformed _ => none
  | ignored => none

end Reading

end C4Lint
