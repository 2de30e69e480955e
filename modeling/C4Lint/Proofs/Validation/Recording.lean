/-
# What a validation records

A validation takes in the declarations of a document one after another and tells relationships apart
by the text of their keys.  In the end it holds what can be read off the list of all declarations:
the first element of each name, the first relationship of each pair of names, and the last name of
the workspace.  The main statement is `recorded_ofDocument`.  A key stands for its pair because the
names in a relationship hold no dash.
-/
import C4Lint.Proofs.Architecture.Recorded
import C4Lint.Validation

namespace C4Lint

/-- The name that a declaration gives to the workspace. -/
def Declaration.workspaceName? : Declaration → Option Text
  | workspace name => some name
  | _ => none

/-- The element that a declaration on a line declares. -/
def Element.ofDeclaration? (line : Nat) : Declaration → Option Element
  | .element kind identifier _ _ _ => some ⟨identifier, kind, line⟩
  | _ => none

/-- The relationship that a declaration on a line states. -/
def Relationship.ofDeclaration? (line : Nat) : Declaration → Option Relationship
  | .relationship source destination description => some ⟨source, destination, description, line⟩
  | _ => none

/-- The names of the source and the destination, in this order. -/
def Relationship.ends (r : Relationship) : Text × Text := (r.source, r.destination)

namespace Entry

/-- The declarations that the entries come to, each with its line.  A statement that is malformed or
ignored comes to none. -/
def declarations (es : List Entry) : List (Nat × Declaration) :=
  es.filterMap fun e => e.reading.declaration?.map fun d => (e.line, d)

/-- What is read off each declaration can be read off each entry. -/
lemma filterMap_declarations {α : Type} (f : Nat → Declaration → Option α) (es : List Entry) :
    ((declarations es).filterMap fun d => f d.1 d.2)
      = es.filterMap fun e => e.reading.declaration?.bind (f e.line) := by
  rw [declarations, List.filterMap_filterMap]
  refine List.filterMap_congr fun e _ => ?_
  cases e.reading.declaration? <;> rfl

lemma elements_eq_filterMap (es : List Entry) :
    elements es = (declarations es).filterMap fun d => Element.ofDeclaration? d.1 d.2 := by
  rw [elements, filterMap_declarations]
  refine List.filterMap_congr fun e _ => ?_
  rw [Architecture.elementOf?]
  rcases e.reading with (_ | _ | _ | _ | _) | _ | _ <;> rfl

lemma relationships_eq_filterMap (es : List Entry) :
    relationships es
      = (declarations es).filterMap fun d => Relationship.ofDeclaration? d.1 d.2 := by
  rw [relationships, filterMap_declarations]
  refine List.filterMap_congr fun e _ => ?_
  rw [Architecture.relationshipOf?]
  rcases e.reading with (_ | _ | _ | _ | _) | _ | _ <;> rfl

lemma workspaceName?_eq_getLast? (es : List Entry) :
    workspaceName? es = ((declarations es).filterMap fun d => d.2.workspaceName?).getLast? := by
  rw [workspaceName?, filterMap_declarations fun _ => Declaration.workspaceName?]
  congr 1
  refine List.filterMap_congr fun e _ => ?_
  rw [workspace?]
  rcases e.reading with (_ | _ | _ | _ | _) | _ | _ <;> rfl

/-- In a document, relationships have one key exactly if they have the same ends. -/
lemma key_eq_iff_ends_eq {es : List Entry} {r s : Relationship} (hr : r ∈ relationships es)
    (hs : s ∈ relationships es) : r.key = s.key ↔ r.ends = s.ends := by
  rw [Relationship.ends, Relationship.ends, Prod.mk.injEq]
  constructor
  · exact source_destination_of_key_eq hr hs
  · rintro ⟨hsource, hdestination⟩
    rw [Relationship.key, Relationship.key, hsource, hdestination]

end Entry

/-- The relationships of a description are the first ones of each pair of names. -/
lemma Architecture.relationships_ofEntries_eq_firstsBy_ends (es : List Entry) :
    (ofEntries es).relationships.toList = firstsBy Relationship.ends (Entry.relationships es) := by
  rw [relationships_ofEntries]
  exact firstsBy_congr Relationship.key fun _ hr _ hs => Entry.key_eq_iff_ends_eq hr hs

/-- What a validation records can be read off the declarations of the document: the elements are the
first ones of each name, the relationships the first ones of each pair of names, since their keys
tell the same pairs apart, and the workspace has the last of its names, if any. -/
theorem Validation.recorded_ofDocument (options : Options) (content : Text) :
    (ofDocument options content).architecture.elements.toList
      = firstsBy Element.name
          ((Entry.declarations (Entry.all options.nesting content)).filterMap
            fun d => Element.ofDeclaration? d.1 d.2) ∧
    (ofDocument options content).architecture.relationships.toList
      = firstsBy Relationship.ends
          ((Entry.declarations (Entry.all options.nesting content)).filterMap
            fun d => Relationship.ofDeclaration? d.1 d.2) ∧
    (∀ r ∈ (Entry.declarations (Entry.all options.nesting content)).filterMap
        fun d => Relationship.ofDeclaration? d.1 d.2,
      ∀ s ∈ (Entry.declarations (Entry.all options.nesting content)).filterMap
        fun d => Relationship.ofDeclaration? d.1 d.2, r.key = s.key ↔ r.ends = s.ends) ∧
    (ofDocument options content).workspace
      = ((Entry.declarations (Entry.all options.nesting content)).filterMap
          fun d => d.2.workspaceName?).getLast? := by
  rw [← Entry.elements_eq_filterMap, ← Entry.relationships_eq_filterMap,
    ← Entry.workspaceName?_eq_getLast?]
  exact ⟨Architecture.elements_ofEntries _, Architecture.relationships_ofEntries_eq_firstsBy_ends _,
    fun _ hr _ hs => Entry.key_eq_iff_ends_eq hr hs, rfl⟩

end C4Lint
