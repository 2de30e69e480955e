/-
# Nested sections lose nothing

A document whose sections hold blocks is validated differently under the two rules for the end of a
section, since flat sections end at the first block that closes.  What comes after it is not lost
under nested sections: a statement that the flat rule leaves outside of the sections is ignored
there or read as in every region.  So whatever a validation with flat sections finds in the
statements, one with nested sections finds as well: `Validation.ofDocument_flat_within_nested`.

Only what is new can differ.  With more elements known, an element of the same name may be recorded
at an earlier statement, and there may be other issues about references.
-/
import C4Lint.Proofs.Declaration.Form
import C4Lint.Proofs.Region.Inclusion
import C4Lint.Proofs.Validation.Issues
import C4Lint.Proofs.Validation.Recording

namespace C4Lint

namespace Entry

variable {e f : Entry} {es fs : List Entry}

/-! ### Two entries of one statement -/

lemma Within.line_eq (h : Within e f) : f.line = e.line := by
  rw [line, line, h.statement_eq]

/-- An entry that is ignored may mean more in its place within a section, but no other does. -/
lemma Within.reading_eq (h : Within e f) : e.reading = .ignored ∨ f.reading = e.reading := by
  rw [reading, reading, h.statement_eq]
  rcases h.region_eq with houtside | heq
  · rw [houtside]
    exact (Reading.of_outside e.statement.text).imp_right fun hall => hall f.region
  · rw [heq]
    exact Or.inr rfl

lemma Within.workspace?_eq (h : Within e f) : f.workspace? = e.workspace? := by
  refine Option.ext fun name => ?_
  rw [workspace?_eq_some_iff, workspace?_eq_some_iff, reading, reading, h.statement_eq,
    Reading.of_eq_workspace_iff, Reading.of_eq_workspace_iff]

/-! ### The entries of one document -/

/-- What the entries declare is declared in the same order, and only more may come between. -/
theorem declarations_sublist (h : List.Forall₂ Within es fs) :
    (declarations es).Sublist (declarations fs) := by
  induction h with
  | nil => exact .slnil
  | @cons e f es fs hef _ ih =>
    rcases hef.reading_eq with hignored | heq
    · -- the first entry declares nothing, whatever the second one does
      have hcons : declarations (e :: es) = declarations es := by
        rw [declarations, List.filterMap_cons, hignored]
        rfl
      rw [hcons]
      exact ih.trans ((List.sublist_cons_self _ _).filterMap _)
    · -- both declare the same on the same line, or nothing
      rw [declarations, declarations, List.filterMap_cons, List.filterMap_cons, hef.line_eq, heq]
      cases e.reading.declaration? with
      | none => exact ih
      | some d => exact ih.cons_cons _

lemma elements_sublist (h : List.Forall₂ Within es fs) : (elements es).Sublist (elements fs) := by
  rw [elements_eq_filterMap, elements_eq_filterMap]
  exact (declarations_sublist h).filterMap _

lemma relationships_sublist (h : List.Forall₂ Within es fs) :
    (relationships es).Sublist (relationships fs) := by
  rw [relationships_eq_filterMap, relationships_eq_filterMap]
  exact (declarations_sublist h).filterMap _

lemma workspaceName?_eq (h : List.Forall₂ Within es fs) :
    workspaceName? es = workspaceName? fs := by
  have hnames : es.filterMap workspace? = fs.filterMap workspace? := by
    induction h with
    | nil => rfl
    | cons hef _ ih => rw [List.filterMap_cons, List.filterMap_cons, hef.workspace?_eq, ih]
  rw [workspaceName?, workspaceName?, hnames]

/-- Behind each malformed entry stands one that is malformed in the same way. -/
lemma exists_malformed_of_within (h : List.Forall₂ Within es fs) {form : Form} (he : e ∈ es)
    (hmalformed : e.reading = .malformed form) :
    ∃ f ∈ fs, f.reading = .malformed form ∧ f.statement = e.statement := by
  induction h with
  | nil => exact absurd he List.not_mem_nil
  | cons hef _ ih =>
    rcases List.mem_cons.1 he with rfl | he
    · refine ⟨_, List.mem_cons_self, ?_, hef.statement_eq⟩
      rcases hef.reading_eq with hignored | heq
      · exact absurd (hmalformed.symm.trans hignored) (by simp)
      · exact heq.trans hmalformed
    · obtain ⟨f, hf, hreading, hstatement⟩ := ih he
      exact ⟨f, List.mem_cons_of_mem _ hf, hreading, hstatement⟩

end Entry

namespace Architecture

variable {es fs : List Entry}

/-- The elements may come from other statements, but none of their names is lost. -/
lemma exists_mem_elements_of_within (h : List.Forall₂ Entry.Within es fs) {x : Element}
    (hx : x ∈ (ofEntries es).elements) : ∃ y ∈ (ofEntries fs).elements, y.name = x.name := by
  rw [← Array.mem_toList_iff, elements_ofEntries] at hx
  obtain ⟨y, hy, hname⟩ := exists_mem_firstsBy Element.name
    ((Entry.elements_sublist h).subset (mem_of_mem_firstsBy Element.name hx))
  rw [← elements_ofEntries, Array.mem_toList_iff] at hy
  exact ⟨y, hy, hname⟩

lemma exists_mem_relationships_of_within (h : List.Forall₂ Entry.Within es fs) {r : Relationship}
    (hr : r ∈ (ofEntries es).relationships) :
    ∃ s ∈ (ofEntries fs).relationships, s.ends = r.ends := by
  rw [← Array.mem_toList_iff, relationships_ofEntries_eq_firstsBy_ends] at hr
  obtain ⟨s, hs, hends⟩ := exists_mem_firstsBy Relationship.ends
    ((Entry.relationships_sublist h).subset (mem_of_mem_firstsBy Relationship.ends hr))
  rw [← relationships_ofEntries_eq_firstsBy_ends, Array.mem_toList_iff] at hs
  exact ⟨s, hs, hends⟩

end Architecture

namespace Validation

/-- If statements that close more braces than they open are single closing braces, then every flat
section lies within a nested one: each statement is outside of the flat sections or in the nested
section of the same kind.  So a validation with nested sections finds the same name of the workspace
and loses none of the elements, the relationships and the errors about malformed statements. -/
theorem ofDocument_flat_within_nested {content : Text}
    (h : ∀ s ∈ Statement.all content,
      (Token.braces (Token.scan s.text)).opening < (Token.braces (Token.scan s.text)).closing →
        s.text = "\x7d".toList) :
    List.Forall₂
      (fun e f => f.statement = e.statement ∧ (e.region = .outside ∨ e.region = f.region))
      (Entry.all .flat content) (Entry.all .nested content) ∧
    ∀ crossReferences,
      (∀ x ∈ (ofDocument ⟨.flat, crossReferences⟩ content).architecture.elements,
        ∃ y ∈ (ofDocument ⟨.nested, crossReferences⟩ content).architecture.elements,
          y.name = x.name) ∧
      (∀ r ∈ (ofDocument ⟨.flat, crossReferences⟩ content).architecture.relationships,
        ∃ s ∈ (ofDocument ⟨.nested, crossReferences⟩ content).architecture.relationships,
          (s.source, s.destination) = (r.source, r.destination)) ∧
      (ofDocument ⟨.flat, crossReferences⟩ content).workspace
        = (ofDocument ⟨.nested, crossReferences⟩ content).workspace ∧
      ∀ form n c, (Finding.malformed form).issue n c
          ∈ (ofDocument ⟨.flat, crossReferences⟩ content).issues →
        (Finding.malformed form).issue n c
          ∈ (ofDocument ⟨.nested, crossReferences⟩ content).issues := by
  have hwithin : List.Forall₂ Entry.Within (Entry.all .flat content) (Entry.all .nested content) :=
    Entry.all_within h
  refine ⟨hwithin.imp fun _ _ hef => ⟨hef.statement_eq, hef.region_eq⟩, fun crossReferences =>
    ⟨fun _ => Architecture.exists_mem_elements_of_within hwithin,
      fun _ => Architecture.exists_mem_relationships_of_within hwithin,
      Entry.workspaceName?_eq hwithin, fun form n c hi => ?_⟩⟩
  rw [malformed_issue_mem_iff] at hi ⊢
  obtain ⟨e, he, hreading, rfl, rfl⟩ := hi
  obtain ⟨f, hf, hreading', hstatement⟩ := Entry.exists_malformed_of_within hwithin he hreading
  exact ⟨f, hf, hreading', by rw [Entry.line, Entry.line, hstatement], by rw [hstatement]⟩

/-- A model with blocks in blocks, which the flat rule leaves at the first closing brace and enters
again where it is opened once more, a statement with both braces, and a malformed statement in the
inner block. -/
theorem ofDocument_flat_within_nested_reopened :
    let content := Text.unlines (List.map String.toList
      ["model \x7b", "a = softwareSystem \"A\" \x7b", "b = container \"B\" \x7b", "x = person", "\x7d",
        "a -> b", "\x7d", "model \x7b", "c = person \"C\" \x7b \x7d", "c -> a", "\x7d", "\x7d",
        "workspace \"W\" \x7b", "\x7d"])
    let error : Issue := (Finding.malformed (.element .person)).issue 4 (some "x = person".toList)
    (∀ s ∈ Statement.all content,
      (Token.braces (Token.scan s.text)).opening < (Token.braces (Token.scan s.text)).closing →
        s.text = "\x7d".toList) ∧
    (Entry.all .flat content).map Entry.region ≠ (Entry.all .nested content).map Entry.region ∧
    (ofDocument ⟨.flat, true⟩ content).workspace = (ofDocument ⟨.nested, true⟩ content).workspace ∧
    error ∈ (ofDocument ⟨.flat, true⟩ content).issues ∧
    error ∈ (ofDocument ⟨.nested, true⟩ content).issues := by
  intro content error
  have hcloses : ∀ s ∈ Statement.all content,
      (Token.braces (Token.scan s.text)).opening < (Token.braces (Token.scan s.text)).closing →
        s.text = "\x7d".toList := by
    decide +kernel
  have herror : error ∈ (ofDocument ⟨.flat, true⟩ content).issues := by decide +kernel
  obtain ⟨-, hlost⟩ := ofDocument_flat_within_nested hcloses
  obtain ⟨-, -, hworkspace, hissues⟩ := hlost true
  exact ⟨hcloses, by decide +kernel, hworkspace, herror, hissues _ _ _ herror⟩

end Validation

end C4Lint
