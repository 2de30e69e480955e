/-
# Warnings about forward references

A relationship should name elements that are declared on earlier lines.  While a document is read,
each relationship is checked against what is known by then, and this file says what comes of it for
the document as a whole: `warnings_ofDocument` lists all warnings but the one about a missing views
section, in their order.  Whether a relationship was stated before, what is declared later, and what
malformed statements were meant to declare have no part in it.
-/
import C4Lint.Proofs.Entry.Issues
import C4Lint.Proofs.Outline

namespace C4Lint

open Architecture (relationshipOf? ofEntries)

/-- The ends of a relationship that are not known yet, one after the other. -/
lemma Architecture.undefinedEnds_eq (a : Architecture) (r : Relationship) :
    a.undefinedEnds r
      = (if a.resolves r.source = true then [] else [.undefinedBeforeUse .source r.source])
        ++ (if a.resolves r.destination = true then []
          else [.undefinedBeforeUse .destination r.destination]) := by
  rw [undefinedEnds, Endpoint.all]
  by_cases hs : a.resolves r.source = true <;> by_cases hd : a.resolves r.destination = true <;>
    simp [Relationship.nameAt, hs, hd]

namespace Entry

/-- The warnings at an entry: if it states a relationship, one for the source and one for the
destination, each unless the name is external or declared on an earlier line. -/
def forwardWarnings (es : List Entry) (e : Entry) : List Issue :=
  match relationshipOf? e with
  | none => []
  | some r =>
    (if isExternal r.source = true ∨ DeclaresBefore es e.line r.source then []
      else [⟨.warning, e.line,
        "Source element '".toList ++ r.source ++ "' not defined before use".toList,
        some e.statement.source⟩])
    ++ (if isExternal r.destination = true ∨ DeclaresBefore es e.line r.destination then []
      else [⟨.warning, e.line,
        "Destination element '".toList ++ r.destination ++ "' not defined before use".toList,
        some e.statement.source⟩])

/-- Whether an issue is a warning, and not the one about a missing views section. -/
def isForwardWarning (i : Issue) : Bool :=
  i.severity = .warning ∧ i ≠ Finding.missingViews.issue 1 none

lemma isForwardWarning_undefinedBeforeUse (p : Endpoint) (name : Text) (n : Nat) (c : Text) :
    isForwardWarning ((Finding.undefinedBeforeUse p name).issue n (some c)) = true := by
  have hcontext : (Finding.undefinedBeforeUse p name).issue n (some c)
      ≠ Finding.missingViews.issue 1 none := by
    intro h
    exact absurd (congrArg Issue.context h) (by simp)
  exact decide_eq_true ⟨rfl, hcontext⟩

lemma filter_issues_outline (content : Text) :
    (Outline.issues content).filter isForwardWarning = [] := by
  rw [List.filter_eq_nil_iff]
  intro i hi
  obtain ⟨f, hf, rfl⟩ := List.mem_map.1 hi
  rcases Outline.mem_findings.1 hf with ⟨rfl, -⟩ | ⟨rfl, -⟩ | ⟨rfl, -⟩ | ⟨rfl, -⟩ <;>
    simp [isForwardWarning, Finding.severity]

lemma filter_crossReferences (a : Architecture) :
    a.crossReferences.filter isForwardWarning = [] := by
  rw [List.filter_eq_nil_iff]
  intro i hi
  rw [Architecture.crossReferences, List.mem_append, List.mem_map, List.mem_map] at hi
  rcases hi with ⟨m, -, rfl⟩ | ⟨x, -, rfl⟩ <;> simp [isForwardWarning, Finding.severity]

/-- Among the issues of an entry, the warnings are those of its relationship. -/
lemma filter_issues (es : List Entry) (e : Entry) :
    (e.issues (ofEntries (es.filter fun f => f.line < e.line))).filter isForwardWarning
      = forwardWarnings es e := by
  by_cases hm : ∃ f, e.reading = .malformed f
  · obtain ⟨f, hf⟩ := hm
    rw [issues_of_malformed hf, forwardWarnings, relationshipOf?_eq_none_of_malformed hf]
    simp [isForwardWarning, Finding.severity]
  · simp only [not_exists] at hm
    cases hr : relationshipOf? e with
    | none => rw [issues_of_relationshipOf?_eq_none hm hr, forwardWarnings, hr, List.filter_nil]
    | some r =>
      have hall : ∀ i ∈ e.issues (ofEntries (es.filter fun f => f.line < e.line)),
          isForwardWarning i = true := by
        intro i hi
        rcases mem_issues_iff.1 hi with ⟨f, hf, -⟩ | ⟨s, p, -, -, rfl⟩
        · exact absurd hf (hm f)
        · exact isForwardWarning_undefinedBeforeUse p _ _ _
      rw [List.filter_eq_self.2 hall, issues_of_relationshipOf? hr, forwardWarnings, hr,
        Architecture.undefinedEnds_eq, List.map_append]
      simp only [resolves_filter_iff]
      congr 1 <;> split_ifs <;> rfl

end Entry

/-- The warnings of a document, apart from the one about a missing views section, are those of its
relationships, in their order and the source before the destination.  Each is on the line of the
relationship and shows it trimmed.  A name with a dot is not declared by any line. -/
theorem Validation.warnings_ofDocument (options : Options) (content : Text) :
    ((Validation.ofDocument options content).issues.filter fun i =>
        i.severity = .warning ∧ i ≠ Finding.missingViews.issue 1 none)
      = (Entry.all options.nesting content).flatMap
          (Entry.forwardWarnings (Entry.all options.nesting content)) ∧
    (∀ e ∈ Entry.all options.nesting content, ∃ i l, (Text.lines content)[i]? = some l ∧
      e.line = i + 1 ∧ e.statement.source = Text.trim l) ∧
    ∀ n name, '.' ∈ name → ¬Entry.DeclaresBefore (Entry.all options.nesting content) n name := by
  refine ⟨?_, fun e => Entry.exists_line_of_mem_all, ?_⟩
  · have hcross : (if options.crossReferences = true then
          (ofEntries (Entry.all options.nesting content)).crossReferences else []).filter
            Entry.isForwardWarning = [] := by
      split_ifs
      · exact Entry.filter_crossReferences _
      · rfl
    calc (Validation.ofDocument options content).issues.filter Entry.isForwardWarning
        = (Entry.allIssues {} (Entry.all options.nesting content)).filter
            Entry.isForwardWarning := by
          rw [Validation.ofDocument, List.filter_append, List.filter_append, hcross,
            Entry.filter_issues_outline, List.nil_append, List.append_nil]
      _ = _ := by
          rw [Entry.allIssues_eq_flatMap (Entry.pairwise_line_all options.nesting content),
            List.filter_flatMap]
          simp only [Entry.filter_issues]
  · intro n name hdot h
    exact Entry.not_declares_of_dot hdot h.declares

end C4Lint
