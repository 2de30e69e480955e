/-
# The verdict on a document

A document passes when none of its issues is an error.  The three parts of a validation find errors
independently of one another: the outline in the whole text, the entries at malformed statements,
and the last checks at names that are never defined.  The main statement is `passed_ofDocument_iff`,
which says when a document passes without reference to issues.
-/
import C4Lint.Proofs.Outline
import C4Lint.Proofs.Entry.Issues
import C4Lint.Proofs.Architecture.References

namespace C4Lint

lemma Issue.passes_eq_true_iff {issues : List Issue} :
    Issue.passes issues = true ↔ ∀ i ∈ issues, i.severity ≠ .error := by
  simp [Issue.passes]

lemma Issue.passes_append (issues others : List Issue) :
    Issue.passes (issues ++ others) = (Issue.passes issues && Issue.passes others) := by
  simp [Issue.passes, List.any_append, Bool.not_or]

lemma Outline.passes_issues_iff {content : Text} :
    Issue.passes (issues content) = true ↔
      DeclaresWorkspace content ∧ Opens "model".toList content ∧
        content.count '{' = content.count '}' := by
  rw [Issue.passes_eq_true_iff]
  simp only [issues, List.mem_map, mem_findings, forall_exists_index, and_imp,
    forall_apply_eq_imp_iff₂, Finding.severity_issue]
  constructor
  · intro h
    refine ⟨?_, ?_, ?_⟩
    · by_contra hw
      exact h .missingWorkspace (Or.inl ⟨rfl, hw⟩) rfl
    · by_contra hm
      exact h .missingModel (Or.inr (Or.inl ⟨rfl, hm⟩)) rfl
    · by_contra hb
      exact h (.unbalancedBraces (braces content)) (Or.inr (Or.inr (Or.inr ⟨rfl, hb⟩))) rfl
  · rintro ⟨hw, hm, hb⟩ f (⟨-, h⟩ | ⟨-, h⟩ | ⟨rfl, -⟩ | ⟨-, h⟩)
    · exact absurd hw h
    · exact absurd hm h
    · simp [Finding.severity]
    · exact absurd hb h

lemma Entry.passes_allIssues_iff {es : List Entry}
    (hes : es.Pairwise fun e f => e.line < f.line) :
    Issue.passes (allIssues {} es) = true ↔ ∀ e ∈ es, ∀ f, e.reading ≠ .malformed f := by
  simp only [Issue.passes_eq_true_iff, mem_allIssues_iff hes]
  constructor
  · intro h e he f hf
    exact h _ (Or.inl ⟨e, he, f, hf, rfl⟩) rfl
  · rintro h i (⟨e, he, f, hf, -⟩ | ⟨e, -, r, p, -, -, -, rfl⟩)
    · exact absurd hf (h e he f)
    · simp [Finding.severity]

lemma Architecture.passes_crossReferences_iff {es : List Entry} :
    Issue.passes (ofEntries es).crossReferences = true ↔
      ∀ r ∈ Entry.relationships es, ∀ p : Endpoint,
        isExternal (r.nameAt p) = true ∨ Entry.Declares es (r.nameAt p) := by
  rw [Issue.passes_eq_true_iff]
  simp only [crossReferences, neverDefined_ofEntries, List.mem_append, List.mem_map]
  constructor
  · intro h r hr p
    by_contra hopen
    simp only [not_or, Bool.not_eq_true] at hopen
    have hm : (⟨r.nameAt p, r.line⟩ : Mention) ∈ Entry.mentions es :=
      Entry.mem_mentions.2 ⟨r, hr, p, rfl, rfl⟩
    obtain ⟨m, hm, -⟩ := Entry.exists_mem_undeclaredMentions hm hopen.1 hopen.2
    exact h _ (Or.inl ⟨m, hm, rfl⟩) rfl
  · rintro h i (⟨m, hm, -⟩ | ⟨x, -, rfl⟩)
    · obtain ⟨hmention, hext, hdecl⟩ := Entry.mem_mentions_of_mem_undeclaredMentions hm
      obtain ⟨r, hr, p, hp, -⟩ := Entry.mem_mentions.1 hmention
      rw [← hp] at hext hdecl
      rcases h r hr p with h | h
      · rw [hext] at h
        exact absurd h (by simp)
      · exact absurd h hdecl
    · simp [Finding.severity]

/-- A document passes exactly when it declares a workspace, opens a model section, closes as many
braces as it opens, has no malformed statement in the regions that its statements belong to, and, if
references are checked at its end, mentions only external names and names that it declares, be it
before or after. -/
theorem Validation.passed_ofDocument_iff (options : Options) (content : Text) :
    (Validation.ofDocument options content).passed = true ↔
      Outline.DeclaresWorkspace content ∧
      Outline.Opens "model".toList content ∧
      content.count '{' = content.count '}' ∧
      (∀ e ∈ Entry.all options.nesting content, ∀ f, e.reading ≠ .malformed f) ∧
      (options.crossReferences = true →
        ∀ r ∈ Entry.relationships (Entry.all options.nesting content), ∀ p : Endpoint,
          isExternal (r.nameAt p) = true ∨
            Entry.Declares (Entry.all options.nesting content) (r.nameAt p)) := by
  have hline := Entry.passes_allIssues_iff (Entry.pairwise_line_all options.nesting content)
  simp only [Validation.passed, Validation.ofDocument, Issue.passes_append, Bool.and_eq_true,
    Outline.passes_issues_iff, hline, and_assoc]
  cases hcross : options.crossReferences with
  | false => simp [Issue.passes]
  | true => simp [Architecture.passes_crossReferences_iff]

end C4Lint
