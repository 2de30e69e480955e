/-
# Declarations of the architecture language

The language declares a workspace, elements of three kinds, relationships between them, views and
styles.  `Declaration.render` writes a declaration in its canonical spelling, with single spaces
and without optional arguments that are absent.
-/
import C4Lint.Text.Basic

namespace C4Lint

/-- The kinds of model elements. -/
inductive ElementKind where
  /-- Someone who uses the system. -/
  | person
  /-- A system as a whole. -/
  | softwareSystem
  /-- A part of a system that runs on its own. -/
  | container
deriving DecidableEq, Repr

namespace ElementKind

/-- The keyword that declares an element of the kind. -/
def keyword : ElementKind → Text
  | person => "person".toList
  | softwareSystem => "softwareSystem".toList
  | container => "container".toList

/-- The name of the kind at the beginning of a sentence. -/
def title : ElementKind → Text
  | person => "Person".toList
  | softwareSystem => "Software system".toList
  | container => "Container".toList

/-- Whether an element of the kind may carry tags after its technology. -/
def acceptsTags : ElementKind → Bool
  | person => false
  | softwareSystem => true
  | container => true

end ElementKind

/-- The kinds of views. -/
inductive ViewKind where
  /-- A system among its neighbours. -/
  | systemContext
  /-- The containers of a system. -/
  | container
  /-- The components of a container. -/
  | component
deriving DecidableEq, Repr

namespace ViewKind

/-- The kinds of views, in the order in which a reader meets them. -/
def all : List ViewKind := [systemContext, container, component]

/-- The keyword that declares a view of the kind. -/
def keyword : ViewKind → Text
  | systemContext => "systemContext".toList
  | container => "container".toList
  | component => "component".toList

/-- The kind that a keyword declares. -/
def ofKeyword? (word : Text) : Option ViewKind := all.find? fun k => k.keyword = word

theorem mem_all (k : ViewKind) : k ∈ all := by
  cases k <;> simp [all]

theorem ofKeyword?_eq_some_iff {word : Text} {k : ViewKind} :
    ofKeyword? word = some k ↔ word = k.keyword := by
  constructor
  · intro h
    have := List.find?_some h
    simpa [eq_comm] using this
  · rintro rfl
    cases k <;> decide

end ViewKind

/-- What a well-formed statement declares. -/
inductive Declaration where
  /-- The name of the whole description. -/
  | workspace (name : Text)
  /-- An element, under the identifier by which relationships refer to it.  Tags come only after a
  technology, and never with a person. -/
  | element (kind : ElementKind) (identifier description : Text) (technology tags : Option Text)
  /-- A relationship from one element to another. -/
  | relationship (source destination : Text) (description : Option Text)
  /-- A view of an element. -/
  | view (kind : ViewKind) (target : Text) (title : Option Text)
  /-- The block of styles. -/
  | styles
deriving DecidableEq, Repr

namespace Declaration

/-- A string argument in quotes, after the space that separates it. -/
def renderString (body : Text) : Text := ' ' :: '"' :: body ++ ['"']

/-- An optional string argument. -/
def renderOptional : Option Text → Text
  | none => []
  | some body => renderString body

/-- The canonical spelling of a declaration. -/
def render : Declaration → Text
  | workspace name => "workspace".toList ++ renderString name ++ " \x7b".toList
  | element kind identifier description technology tags =>
    identifier ++ " = ".toList ++ kind.keyword ++ renderString description
      ++ renderOptional technology ++ renderOptional tags
  | relationship source destination description =>
    source ++ " -> ".toList ++ destination ++ renderOptional description
  | view kind target title => kind.keyword ++ ' ' :: target ++ renderOptional title
  | styles => "styles \x7b".toList

end Declaration

end C4Lint
