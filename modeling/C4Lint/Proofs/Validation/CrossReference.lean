/-
# What checking references at the end adds

Checking references at the end of a document changes nothing of what was found before: it adds an
error for each name that the relationships of the document mention and that no entry declares, and
after that a note for each element that no relationship mentions.  The main statement is
`crossReferences_ofDocument`.  Its two lists are taken from all statements of the document, although
the check itself sees relationships and elements without their repetitions.
-/
import C4Lint.Proofs.Validation.Issues

namespace C4Lint

/-- Checking references at the end keeps the name of the workspace, the elements, the relationships
and the issues of a document, and appends the errors about names that are never defined, each where
it is first mentioned, and the notes about unused elements, each where it is first declared. -/
theorem Validation.crossReferences_ofDocument (nesting : Nesting) (content : Text) :
    (Validation.ofDocument ⟨nesting, true⟩ content).workspace
      = (Validation.ofDocument ⟨nesting, false⟩ content).workspace ∧
    (Validation.ofDocument ⟨nesting, true⟩ content).architecture.elements
      = (Validation.ofDocument ⟨nesting, false⟩ content).architecture.elements ∧
    (Validation.ofDocument ⟨nesting, true⟩ content).architecture.relationships
      = (Validation.ofDocument ⟨nesting, false⟩ content).architecture.relationships ∧
    (Validation.ofDocument ⟨nesting, true⟩ content).issues
      = (Validation.ofDocument ⟨nesting, false⟩ content).issues
        ++ (Entry.undeclaredMentions (Entry.all nesting content)).map (fun m =>
          ⟨.error, m.line, "Element '".toList ++ m.name
            ++ "' is referenced by a relationship but never defined".toList, none⟩)
        ++ (Entry.unusedElements (Entry.all nesting content)).map (fun x =>
          ⟨.info, x.line, x.kind.title ++ " '".toList ++ x.name
            ++ "' is not used in any relationship".toList, none⟩) := by
  refine ⟨rfl, rfl, rfl, ?_⟩
  rw [Validation.issues_ofDocument, Validation.issues_ofDocument, if_pos rfl,
    if_neg Bool.false_ne_true, Architecture.crossReferences_ofEntries, List.append_nil,
    ← List.append_assoc]
  rfl

end C4Lint
