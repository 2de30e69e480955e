/-
# Where the issues of a document come from

The issues of a document come in three parts: those with its outline, those of its entries, and
those of the last checks.  `Validation.issues_ofDocument` takes the list apart, and
`Validation.mem_issues_ofDocument_iff` says of each issue where it comes from, by what the document
declares and mentions and not by the order in which it is read.  What is said about one kind of
issues can be read off from there, since each has a wording of its own: for malformed statements it
is `Validation.malformed_issue_mem_iff`.
-/
import C4Lint.Proofs.Outline
import C4Lint.Proofs.Architecture.References
import C4Lint.Proofs.Entry.Issues
import C4Lint.Proofs.Issue.Wording

namespace C4Lint.Validation

open Architecture (relationshipOf?)

variable {options : Options} {content : Text}

/-- The issues of a document in their three parts. -/
lemma issues_ofDocument (options : Options) (content : Text) :
    (ofDocument options content).issues
      = Outline.issues content ++ Entry.allIssues {} (Entry.all options.nesting content)
        ++ if options.crossReferences = true then
          (Architecture.ofEntries (Entry.all options.nesting content)).crossReferences else [] :=
  rfl

/-- An issue of a document is about its outline, about a malformed statement, about an end of a
relationship that is neither external nor declared before, or, if references are checked at the end,
about a name that is never declared or an element that is never used. -/
theorem mem_issues_ofDocument_iff {i : Issue} :
    i ∈ (ofDocument options content).issues ↔
      (∃ f ∈ Outline.findings content, f.issue 1 none = i) ∨
      (∃ e ∈ Entry.all options.nesting content, ∃ form, e.reading = .malformed form ∧
        (Finding.malformed form).issue e.line (some e.statement.source) = i) ∨
      (∃ e ∈ Entry.all options.nesting content, ∃ r p, relationshipOf? e = some r ∧
        isExternal (r.nameAt p) = false ∧
        ¬Entry.DeclaresBefore (Entry.all options.nesting content) e.line (r.nameAt p) ∧
        (Finding.undefinedBeforeUse p (r.nameAt p)).issue e.line (some e.statement.source) = i) ∨
      options.crossReferences = true ∧
        ((∃ m ∈ Entry.undeclaredMentions (Entry.all options.nesting content),
          (Finding.neverDefined m.name).issue m.line none = i) ∨
        ∃ x ∈ Entry.unusedElements (Entry.all options.nesting content),
          (Finding.unconnected x.kind x.name).issue x.line none = i) := by
  have hes := Entry.pairwise_line_all options.nesting content
  rw [issues_ofDocument, List.mem_append, List.mem_append, Outline.issues, List.mem_map,
    Entry.mem_allIssues_iff hes, List.mem_ite_nil_right, Architecture.crossReferences_ofEntries,
    List.mem_append, List.mem_map, List.mem_map]
  simp only [or_assoc, eq_comm (a := i)]

/-- The issues about malformed statements are those of the entries that are malformed. -/
theorem malformed_issue_mem_iff {form : Form} {n : Nat} {c : Option Text} :
    (Finding.malformed form).issue n c ∈ (ofDocument options content).issues ↔
      ∃ e ∈ Entry.all options.nesting content,
        e.reading = .malformed form ∧ e.line = n ∧ some e.statement.source = c := by
  simp only [mem_issues_ofDocument_iff, Finding.issue_eq_malformed_iff]
  constructor
  · rintro (⟨f, hf, rfl, -⟩ | ⟨e, he, other, hreading, hform, hn, hc⟩ | ⟨_, _, _, _, _, _, _, hf, -⟩ |
      ⟨-, ⟨_, _, hf, -⟩ | ⟨_, _, hf, -⟩⟩)
    · -- the outline has nothing to say about statements
      simp [Outline.mem_findings] at hf
    · obtain rfl : other = form := (Finding.malformed.injEq ..).mp hform
      exact ⟨e, he, hreading, hn, hc⟩
    all_goals exact absurd hf (by simp)
  · rintro ⟨e, he, hreading, hn, hc⟩
    exact Or.inr (Or.inl ⟨e, he, form, hreading, rfl, hn, hc⟩)

end C4Lint.Validation
