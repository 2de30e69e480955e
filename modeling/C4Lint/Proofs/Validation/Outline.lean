/-
# What is reported about the outline of a document

The outline checks come first, and they say what the text lacks and nothing more: a workspace, a
model section, a views section, as many closing braces as opening ones.  Whatever has been found
before stays as it was, and nothing that is found later repeats what they say about braces, since
that has a wording of its own (`Finding.prefix_message_iff`).  The main statement is
`Outline.issues_exact`.
-/
import C4Lint.Proofs.Validation.Issues

namespace C4Lint

/-- Only one finding is worded as being about the balance of braces. -/
lemma Finding.prefix_message_iff {f : Finding} :
    "Unbalanced braces".toList.isPrefixOf f.message = true ↔ ∃ b, f = .unbalancedBraces b := by
  constructor
  · intro h
    obtain ⟨rest, hrest⟩ := List.isPrefixOf_iff_prefix.1 h
    have hlead : f.lead = ['U', 'n', 'b'] := by
      rw [← take_message, ← hrest, List.take_append_of_le_length (by decide)]
      decide
    cases f with
    | unbalancedBraces b => exact ⟨b, rfl⟩
    | undefinedBeforeUse p _ => cases p <;> simp [lead] at hlead
    | unconnected kind _ => cases kind <;> simp [lead] at hlead
    | _ => simp [lead] at hlead
  · rintro ⟨b, rfl⟩
    have hwords : "Unbalanced braces: ".toList = "Unbalanced braces".toList ++ ": ".toList := by
      decide
    have hlead : "Unbalanced braces".toList <+: "Unbalanced braces: ".toList :=
      hwords ▸ List.prefix_append _ _
    rw [List.isPrefixOf_iff_prefix]
    exact (((hlead.trans (List.prefix_append _ _)).trans (List.prefix_append _ _)).trans
      (List.prefix_append _ _)).trans (List.prefix_append _ _)

namespace Outline

open Validation (ofDocument)

/-- What there is to say about the braces of a text: nothing, or that their numbers differ. -/
def imbalance (content : Text) : List Issue :=
  if content.count '{' = content.count '}' then []
  else
    [⟨.error, 1, "Unbalanced braces: ".toList ++ Text.decimal (content.count '{')
      ++ " opening, ".toList ++ Text.decimal (content.count '}') ++ " closing".toList, none⟩]

/-- Whether an issue is about the balance of braces. -/
def isAboutBraces (i : Issue) : Bool := "Unbalanced braces".toList.isPrefixOf i.message

lemma isAboutBraces_issue {f : Finding} (hf : ∀ b, f ≠ .unbalancedBraces b) (n : Nat)
    (c : Option Text) : ¬isAboutBraces (f.issue n c) = true := by
  intro h
  obtain ⟨b, hb⟩ := Finding.prefix_message_iff.1 h
  exact hf b hb

/-- What the text lacks, one after another. -/
lemma issues_eq (content : Text) :
    issues content =
      (if DeclaresWorkspace content then [] else [Finding.missingWorkspace.issue 1 none])
      ++ (if Opens "model".toList content then [] else [Finding.missingModel.issue 1 none])
      ++ (if Opens "views".toList content then [] else [Finding.missingViews.issue 1 none])
      ++ imbalance content := by
  simp only [issues, findings, List.map_append, hasWorkspace_eq_true_iff, hasSection_eq_true_iff,
    apply_ite (List.map _), List.map_nil, List.map_cons]
  rfl

/-- Of the issues with the outline, only the last one is about the balance of braces. -/
lemma filter_isAboutBraces_issues (content : Text) :
    (issues content).filter isAboutBraces = imbalance content := by
  have hnone : ∀ (p : Prop) [Decidable p] (f : Finding), (∀ b, f ≠ .unbalancedBraces b) →
      (if p then [] else [f.issue 1 none]).filter isAboutBraces = [] := by
    intro p _ f hf
    rw [apply_ite (List.filter isAboutBraces),
      List.filter_cons_of_neg (isAboutBraces_issue hf 1 none), List.filter_nil, ite_self]
  have hself : (imbalance content).filter isAboutBraces = imbalance content := by
    refine List.filter_eq_self.2 fun i hi => ?_
    obtain ⟨-, hi⟩ := List.mem_ite_nil_left.1 hi
    rw [List.mem_singleton.1 hi]
    exact Finding.prefix_message_iff.2 ⟨braces content, rfl⟩
  rw [issues_eq, List.filter_append, List.filter_append, List.filter_append, hself,
    hnone _ .missingWorkspace (by simp), hnone _ .missingModel (by simp),
    hnone _ .missingViews (by simp), List.nil_append, List.nil_append, List.nil_append]

/-- No issue with a statement or a reference is about the balance of braces. -/
lemma filter_isAboutBraces_ofDocument (options : Options) (content : Text) :
    (ofDocument options content).issues.filter isAboutBraces
      = (issues content).filter isAboutBraces := by
  have hentries : (Entry.allIssues {} (Entry.all options.nesting content)).filter isAboutBraces
      = [] := by
    refine List.filter_eq_nil_iff.2 fun i hi => ?_
    rcases (Entry.mem_allIssues_iff (Entry.pairwise_line_all options.nesting content)).1 hi with
      ⟨e, -, f, -, rfl⟩ | ⟨e, -, r, p, -, -, -, rfl⟩
    · exact isAboutBraces_issue (by simp) _ _
    · exact isAboutBraces_issue (by simp) _ _
  have hreferences : ∀ a : Architecture, a.crossReferences.filter isAboutBraces = [] := by
    refine fun a => List.filter_eq_nil_iff.2 fun i hi => ?_
    rcases List.mem_append.1 hi with hi | hi
    · obtain ⟨m, -, rfl⟩ := List.mem_map.1 hi
      exact isAboutBraces_issue (by simp) _ _
    · obtain ⟨x, -, rfl⟩ := List.mem_map.1 hi
      exact isAboutBraces_issue (by simp) _ _
  rw [Validation.issues_ofDocument, List.filter_append, List.filter_append, hentries,
    List.append_nil, apply_ite (List.filter isAboutBraces), hreferences, List.filter_nil, ite_self,
    List.append_nil]

/-- The issues with the outline of a text are, in this order and each at most once, that it declares
no workspace, opens no model section, opens no views section and has different numbers of opening and
closing braces, for each of these exactly if it is so.  They are behind what was found before, on the
first line and without a context.  Whatever else is found in the document and whatever is asked for,
the numbers of braces are reported once if they differ, and else not at all. -/
theorem issues_exact (content : Text) :
    (∀ found : List Issue, found ++ issues content =
      found
      ++ (if DeclaresWorkspace content then []
        else [⟨.error, 1, "Missing workspace declaration".toList, none⟩])
      ++ (if Opens "model".toList content then []
        else [⟨.error, 1, "Missing model section".toList, none⟩])
      ++ (if Opens "views".toList content then []
        else [⟨.warning, 1, "Missing views section (recommended for visualization)".toList, none⟩])
      ++ imbalance content) ∧
    ∀ options : Options, (ofDocument options content).issues.filter isAboutBraces
      = imbalance content := by
  refine ⟨fun found => ?_, fun options => ?_⟩
  · rw [issues_eq]
    simp only [List.append_assoc]
    rfl
  · rw [filter_isAboutBraces_ofDocument, filter_isAboutBraces_issues]

end Outline

end C4Lint
