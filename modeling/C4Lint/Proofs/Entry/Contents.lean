/-
# What the entries of a document declare and mention

The declarations of a document are spread over its entries.  This file gathers them without regard
to the order in which they are recorded: the elements, the relationships, and the names that
relationships mention, repetitions included.  The two questions of the reference checks are asked
here of the whole document: whether it declares a name at all (`Entry.Declares`), and whether it
does so before a line (`Entry.DeclaresBefore`).
-/
import C4Lint.Proofs.Declaration.Names
import C4Lint.Proofs.Statement.Lines
import C4Lint.Architecture.Reference

namespace C4Lint

open Architecture (elementOf? relationshipOf?)

namespace Entry

/-- The elements that the entries declare, each as often as it is declared. -/
def elements (es : List Entry) : List Element := es.filterMap elementOf?

/-- The relationships that the entries state, each as often as it is stated. -/
def relationships (es : List Entry) : List Relationship := es.filterMap relationshipOf?

/-- The names in the relationships of the entries, the source before the destination. -/
def mentions (es : List Entry) : List Mention :=
  (relationships es).flatMap fun r => [⟨r.source, r.line⟩, ⟨r.destination, r.line⟩]

/-- One of the entries declares an element of the name. -/
def Declares (es : List Entry) (name : Text) : Prop := ∃ x ∈ elements es, x.name = name

/-- One of the entries on the lines before line `n` declares an element of the name. -/
def DeclaresBefore (es : List Entry) (n : Nat) (name : Text) : Prop :=
  ∃ x ∈ elements es, x.line < n ∧ x.name = name

instance (es : List Entry) (name : Text) : Decidable (Declares es name) :=
  inferInstanceAs (Decidable (∃ x ∈ elements es, x.name = name))

instance (es : List Entry) (n : Nat) (name : Text) : Decidable (DeclaresBefore es n name) :=
  inferInstanceAs (Decidable (∃ x ∈ elements es, x.line < n ∧ x.name = name))

/-! ### Entries one by one -/

lemma elementOf?_eq_some_iff {e : Entry} {x : Element} :
    elementOf? e = some x ↔ ∃ kind identifier description technology tags,
      e.reading = .declared (.element kind identifier description technology tags) ∧
        x = ⟨identifier, kind, e.line⟩ := by
  rw [elementOf?]
  split
  · next kind identifier description technology tags h => simp [h, eq_comm]
  · next hne =>
    simp only [reduceCtorEq, false_iff]
    rintro ⟨kind, identifier, description, technology, tags, h, -⟩
    exact hne kind identifier description technology tags h

lemma relationshipOf?_eq_some_iff {e : Entry} {r : Relationship} :
    relationshipOf? e = some r ↔ ∃ source destination description,
      e.reading = .declared (.relationship source destination description) ∧
        r = ⟨source, destination, description, e.line⟩ := by
  rw [relationshipOf?]
  split
  · next source destination description h => simp [h, eq_comm]
  · next hne =>
    simp only [reduceCtorEq, false_iff]
    rintro ⟨source, destination, description, h, -⟩
    exact hne source destination description h

lemma workspace?_eq_some_iff {e : Entry} {name : Text} :
    e.workspace? = some name ↔ e.reading = .declared (.workspace name) := by
  rw [workspace?]
  split
  · next h => simp [h]
  · next hne =>
    simp only [reduceCtorEq, false_iff]
    exact hne name

lemma line_of_elementOf? {e : Entry} {x : Element} (h : elementOf? e = some x) :
    x.line = e.line := by
  obtain ⟨_, _, _, _, _, -, rfl⟩ := elementOf?_eq_some_iff.1 h
  rfl

lemma line_of_relationshipOf? {e : Entry} {r : Relationship} (h : relationshipOf? e = some r) :
    r.line = e.line := by
  obtain ⟨_, _, _, -, rfl⟩ := relationshipOf?_eq_some_iff.1 h
  rfl

/-- An entry that states a relationship declares no element. -/
lemma elementOf?_eq_none_of_relationshipOf? {e : Entry} {r : Relationship}
    (h : relationshipOf? e = some r) : elementOf? e = none := by
  obtain ⟨_, _, _, hreading, -⟩ := relationshipOf?_eq_some_iff.1 h
  rw [elementOf?, hreading]

lemma relationshipOf?_eq_none_of_malformed {e : Entry} {f : Form} (h : e.reading = .malformed f) :
    relationshipOf? e = none := by
  rw [relationshipOf?, h]

lemma elementOf?_eq_none_of_malformed {e : Entry} {f : Form} (h : e.reading = .malformed f) :
    elementOf? e = none := by
  rw [elementOf?, h]

lemma workspace?_eq_none_of_malformed {e : Entry} {f : Form} (h : e.reading = .malformed f) :
    e.workspace? = none := by
  rw [workspace?, h]

/-! ### All entries together -/

lemma mem_elements {es : List Entry} {x : Element} :
    x ∈ elements es ↔ ∃ e ∈ es, elementOf? e = some x := List.mem_filterMap

lemma mem_relationships {es : List Entry} {r : Relationship} :
    r ∈ relationships es ↔ ∃ e ∈ es, relationshipOf? e = some r := List.mem_filterMap

lemma mem_mentions {es : List Entry} {m : Mention} :
    m ∈ mentions es ↔
      ∃ r ∈ relationships es, ∃ p : Endpoint, r.nameAt p = m.name ∧ r.line = m.line := by
  simp only [mentions, List.mem_flatMap, List.mem_cons, List.not_mem_nil, or_false]
  refine exists_congr fun r => and_congr_right fun _ => ?_
  obtain ⟨name, line⟩ := m
  constructor
  · rintro (h | h)
    · exact ⟨.source, by simp_all [Relationship.nameAt]⟩
    · exact ⟨.destination, by simp_all [Relationship.nameAt]⟩
  · rintro ⟨p, rfl, rfl⟩
    cases p <;> simp [Relationship.nameAt]

/-- A line that declares an element mentions no name. -/
lemma line_ne_of_mem_mentions {es : List Entry} (hes : es.Pairwise fun e f => e.line < f.line)
    {x : Element} (hx : x ∈ elements es) {m : Mention} (hm : m ∈ mentions es) :
    x.line ≠ m.line := by
  obtain ⟨e, he, hex⟩ := mem_elements.1 hx
  obtain ⟨r, hr, -, -, hline⟩ := mem_mentions.1 hm
  obtain ⟨f, hf, hfr⟩ := mem_relationships.1 hr
  rw [← hline, line_of_elementOf? hex, line_of_relationshipOf? hfr]
  intro h
  -- on one line stands one entry, and it cannot be read as both
  obtain rfl := eq_of_line_eq hes he hf h
  rw [elementOf?_eq_none_of_relationshipOf? hfr] at hex
  exact absurd hex (by simp)

/-- The elements of a document are declared under words. -/
lemma isWord_of_mem_elements {es : List Entry} {x : Element} (h : x ∈ elements es) :
    x.name.IsWord := by
  obtain ⟨e, -, he⟩ := mem_elements.1 h
  obtain ⟨_, _, _, _, _, hreading, rfl⟩ := elementOf?_eq_some_iff.1 he
  exact Reading.wellNamed_of_declared hreading

/-- The relationships of a document lead from name to name. -/
lemma isName_of_mem_relationships {es : List Entry} {r : Relationship}
    (h : r ∈ relationships es) : r.source.IsName ∧ r.destination.IsName := by
  obtain ⟨e, -, he⟩ := mem_relationships.1 h
  obtain ⟨_, _, _, hreading, rfl⟩ := relationshipOf?_eq_some_iff.1 he
  exact Reading.wellNamed_of_declared hreading

lemma DeclaresBefore.declares {es : List Entry} {n : Nat} {name : Text}
    (h : DeclaresBefore es n name) : Declares es name := by
  obtain ⟨x, hx, -, hname⟩ := h
  exact ⟨x, hx, hname⟩

/-- A name with a dot is never declared. -/
lemma not_declares_of_dot {es : List Entry} {name : Text} (h : '.' ∈ name) :
    ¬Declares es name := by
  rintro ⟨x, hx, rfl⟩
  exact (isWord_of_mem_elements hx).dot_not_mem h

end Entry

end C4Lint
