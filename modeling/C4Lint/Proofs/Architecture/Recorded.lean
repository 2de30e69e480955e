/-
# What an architecture records

An architecture takes in the declarations of a document one by one, each as the change that it makes
(`Architecture.foldl_record`).  Whatever the order in which they come, it holds in the end the first
element of each name and the first relationship of each key: `elements_ofEntries`,
`relationships_ofEntries` and `declares_ofEntries`.  The statement about `List.foldl` before each of
them says what entries add to an architecture that holds something already.

The sources in a document hold no arrow, and so the key of a relationship stands for both of its
names (`source_destination_of_key_eq`).
-/
import C4Lint.Proofs.Architecture.Change
import C4Lint.Proofs.Entry.Contents

namespace C4Lint

lemma Text.IsName.occursIn_arrow {t : Text} (h : t.IsName) :
    Text.occursIn "->".toList t = false := by
  rw [Bool.eq_false_iff, ne_eq, Text.occursIn_eq_true_iff]
  rintro ⟨u, v, rfl⟩
  exact h.dash_not_mem (by simp)

/-- In a document, relationships of one key have the same two names. -/
lemma Entry.source_destination_of_key_eq {es : List Entry} {r s : Relationship}
    (hr : r ∈ relationships es) (hs : s ∈ relationships es) (h : r.key = s.key) :
    r.source = s.source ∧ r.destination = s.destination :=
  Relationship.key_inj (isName_of_mem_relationships hr).1.occursIn_arrow
    (isName_of_mem_relationships hs).1.occursIn_arrow h

namespace Architecture

/-! ### One entry -/

/-- A malformed entry is not recorded. -/
lemma record_of_malformed {e : Entry} {f : Form} (h : e.reading = .malformed f)
    (a : Architecture) : a.record e = a := by
  rw [record, Entry.elementOf?_eq_none_of_malformed h, Entry.relationshipOf?_eq_none_of_malformed h]

/-- What an entry tells an architecture. -/
def changeOf? (e : Entry) : Option Change :=
  ((elementOf? e).map .declare).or ((relationshipOf? e).map .relate)

lemma record_eq (a : Architecture) (e : Entry) : a.record e = (changeOf? e).elim a a.change := by
  rw [record, changeOf?]
  cases elementOf? e with
  | some x => rfl
  | none => cases relationshipOf? e <;> rfl

lemma bind_element?_changeOf? (e : Entry) : (changeOf? e).bind Change.element? = elementOf? e := by
  rw [changeOf?]
  cases elementOf? e with
  | some x => rfl
  | none => cases relationshipOf? e <;> rfl

lemma bind_relationship?_changeOf? (e : Entry) :
    (changeOf? e).bind Change.relationship? = relationshipOf? e := by
  rw [changeOf?]
  cases hr : relationshipOf? e with
  | some r => rw [Entry.elementOf?_eq_none_of_relationshipOf? hr]; rfl
  | none => cases elementOf? e <;> rfl

/-! ### All entries -/

/-- Entries are recorded by the changes that they make. -/
lemma foldl_record (a : Architecture) (es : List Entry) :
    es.foldl record a = (es.filterMap changeOf?).foldl change a := by
  rw [List.foldl_filterMap]
  congr 1
  funext a e
  rw [record_eq]
  cases changeOf? e <;> rfl

lemma filterMap_element?_changes (es : List Entry) :
    (es.filterMap changeOf?).filterMap Change.element? = Entry.elements es := by
  rw [List.filterMap_filterMap]
  simp only [bind_element?_changeOf?]
  rfl

lemma filterMap_relationship?_changes (es : List Entry) :
    (es.filterMap changeOf?).filterMap Change.relationship? = Entry.relationships es := by
  rw [List.filterMap_filterMap]
  simp only [bind_relationship?_changeOf?]
  rfl

/-- Entries add the names of their elements to those that an architecture declares. -/
theorem declares_foldl_record (a : Architecture) (es : List Entry) (name : Text) :
    (es.foldl record a).declares name = true ↔ a.declares name = true ∨ Entry.Declares es name := by
  rw [foldl_record, records_elements.seen_foldl, filterMap_element?_changes, Entry.Declares]

/-- Entries add to the elements of an architecture the first ones of new names. -/
theorem elements_foldl_record (a : Architecture) (es : List Entry) :
    (es.foldl record a).elements.toList = a.elements.toList
      ++ firstsBy Element.name ((Entry.elements es).filter fun x => !a.declares x.name) := by
  rw [foldl_record, records_elements.items_foldl, filterMap_element?_changes]

/-- Entries add to the relationships of an architecture the first ones of new keys. -/
theorem relationships_foldl_record (a : Architecture) (es : List Entry) :
    (es.foldl record a).relationships.toList = a.relationships.toList
      ++ firstsBy Relationship.key
        ((Entry.relationships es).filter fun r => !a.keys.contains r.key) := by
  rw [foldl_record, records_relationships.items_foldl, filterMap_relationship?_changes]

/-- The elements of a description are the first ones of each name. -/
theorem elements_ofEntries (es : List Entry) :
    (ofEntries es).elements.toList = firstsBy Element.name (Entry.elements es) := by
  rw [ofEntries, elements_foldl_record]
  simp [declares_empty]

/-- The relationships of a description are the first ones of each key. -/
theorem relationships_ofEntries (es : List Entry) :
    (ofEntries es).relationships.toList = firstsBy Relationship.key (Entry.relationships es) := by
  rw [ofEntries, relationships_foldl_record]
  simp

/-- A description declares the names that one of its entries declares. -/
theorem declares_ofEntries (es : List Entry) (name : Text) :
    (ofEntries es).declares name = true ↔ Entry.Declares es name := by
  rw [ofEntries, declares_foldl_record, declares_empty]
  simp

/-- The names that a description knows are external or declared by one of its entries. -/
lemma resolves_ofEntries_iff (es : List Entry) (name : Text) :
    (ofEntries es).resolves name = true ↔ isExternal name = true ∨ Entry.Declares es name := by
  rw [resolves, Bool.or_eq_true, declares_ofEntries, or_comm]

end Architecture

end C4Lint
