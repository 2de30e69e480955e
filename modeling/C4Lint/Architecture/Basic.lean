/-
# The architecture that a document describes

An `Architecture` holds the elements and relationships recorded so far, in the order in which they
came.  An element is known by its name and a relationship by its key; what comes again under a
known name or key is not recorded, so the first declaration stays.  Names are compared as a whole: a
dotted name is not taken apart.
-/
import Std.Data.TreeSet
import C4Lint.Architecture.External
import C4Lint.Entry

namespace C4Lint

/-- A declared element. -/
structure Element where
  /-- The identifier by which relationships refer to the element. -/
  name : Text
  /-- What the element is. -/
  kind : ElementKind
  /-- The line of the declaration. -/
  line : Nat
deriving DecidableEq, Repr

/-- The two ends of a relationship. -/
inductive Endpoint where
  /-- The element that the relationship starts from. -/
  | source
  /-- The element that it leads to. -/
  | destination
deriving DecidableEq, Repr

namespace Endpoint

/-- Both ends, in the order in which a relationship names them. -/
def all : List Endpoint := [source, destination]

theorem mem_all (p : Endpoint) : p ∈ all := by
  cases p <;> simp [all]

end Endpoint

/-- A directed relationship between two names. -/
structure Relationship where
  /-- The name that the relationship starts from. -/
  source : Text
  /-- The name that it leads to. -/
  destination : Text
  /-- What the relationship is about. -/
  description : Option Text
  /-- The line of the statement. -/
  line : Nat
deriving DecidableEq, Repr

namespace Relationship

/-- The text by which relationships are told apart: both names with an arrow between them. -/
def key (r : Relationship) : Text := r.source ++ "->".toList ++ r.destination

/-- The name at one end. -/
def nameAt (r : Relationship) : Endpoint → Text
  | .source => r.source
  | .destination => r.destination

/-- Whether a name is one of the two ends. -/
def touches (r : Relationship) (name : Text) : Bool := r.source == name || r.destination == name

end Relationship

/-- The elements and relationships of a description.  The sets repeat the names of the elements and
the keys of the relationships, for quick answers. -/
structure Architecture where
  /-- The elements, in the order of their first declarations. -/
  elements : Array Element := #[]
  /-- The names of the elements. -/
  names : Std.TreeSet Text := ∅
  /-- The relationships, in the order of their first statements. -/
  relationships : Array Relationship := #[]
  /-- The keys of the relationships. -/
  keys : Std.TreeSet Text := ∅

namespace Architecture

/-- Whether an element of the name has been declared. -/
def declares (a : Architecture) (name : Text) : Bool := a.names.contains name

/-- Whether a name may stand in a relationship: it is declared, or refers to an external system. -/
def resolves (a : Architecture) (name : Text) : Bool := a.declares name || isExternal name

/-- Records an element, unless its name is taken. -/
def declare (a : Architecture) (e : Element) : Architecture :=
  if a.names.contains e.name then a
  else { a with elements := a.elements.push e, names := a.names.insert e.name }

/-- Records a relationship, unless its key is taken. -/
def relate (a : Architecture) (r : Relationship) : Architecture :=
  if a.keys.contains r.key then a
  else { a with relationships := a.relationships.push r, keys := a.keys.insert r.key }

/-- An element leaves the names that were known and adds its own. -/
theorem declares_declare (a : Architecture) (e : Element) (name : Text) :
    (a.declare e).declares name = (e.name == name || a.declares name) := by
  unfold declare declares
  split
  · next h =>
    by_cases hn : e.name = name
    · subst hn
      simp [h]
    · simp [hn]
  · rw [Std.TreeSet.contains_insert, Bool.eq_iff_iff]
    simp [Std.LawfulEqCmp.compare_eq_iff_eq]

@[simp] theorem relationships_declare (a : Architecture) (e : Element) :
    (a.declare e).relationships = a.relationships := by
  unfold declare
  split <;> rfl

@[simp] theorem elements_relate (a : Architecture) (r : Relationship) :
    (a.relate r).elements = a.elements := by
  unfold relate
  split <;> rfl

@[simp] theorem declares_relate (a : Architecture) (r : Relationship) (name : Text) :
    (a.relate r).declares name = a.declares name := by
  unfold relate declares
  split <;> rfl

/-- The element that an entry declares. -/
def elementOf? (e : Entry) : Option Element :=
  match e.reading with
  | .declared (.element kind identifier _ _ _) => some ⟨identifier, kind, e.line⟩
  | _ => none

/-- The relationship that an entry states. -/
def relationshipOf? (e : Entry) : Option Relationship :=
  match e.reading with
  | .declared (.relationship source destination description) =>
    some ⟨source, destination, description, e.line⟩
  | _ => none

/-- Records what an entry declares. -/
def record (a : Architecture) (e : Entry) : Architecture :=
  match elementOf? e with
  | some element => a.declare element
  | none =>
    match relationshipOf? e with
    | some relationship => a.relate relationship
    | none => a

/-- The architecture that the entries describe. -/
def ofEntries (es : List Entry) : Architecture := es.foldl record {}

end Architecture

end C4Lint
