/-
# Documents without blocks inside their sections

For a document whose sections hold no blocks it does not matter which rule ends the sections: its
statements belong to the same regions, and its validation is the same.  The main statement is
`Validation.ofDocument_nested_eq_flat`.  It asks nothing of the statements outside of the sections,
so that stray closing braces, sections opened within sections and documents that are not balanced
are covered.
-/
import C4Lint.Proofs.Region.Flat
import C4Lint.Validation

namespace C4Lint.Validation

/-- If every statement in a section, other than those that open one, opens as many braces as it
closes, then nested sections are the flat ones: the entries are the same, and so are the workspace,
the elements, the relationships and the issues. -/
theorem ofDocument_nested_eq_flat {content : Text}
    (h : ∀ e ∈ Entry.all .flat content, e.region ≠ .outside →
      Region.opened? e.statement.text = none →
      (Token.braces (Token.scan e.statement.text)).opening
        = (Token.braces (Token.scan e.statement.text)).closing) :
    Entry.all .nested content = Entry.all .flat content ∧
    ∀ crossReferences, ofDocument ⟨.nested, crossReferences⟩ content
      = ofDocument ⟨.flat, crossReferences⟩ content := by
  have hentries : Entry.all .nested content = Entry.all .flat content := Entry.all_nested_eq_flat h
  refine ⟨hentries, fun crossReferences => ?_⟩
  simp only [ofDocument, hentries]

/-- Two stray closing braces, an open block before the model, the views opened inside the model, a
block that is opened and closed in one statement, and braces that are left open at the end. -/
theorem ofDocument_nested_eq_flat_of_unbalanced :
    let content :=
      ("\x7d\n\x7d\nworkspace \"W\" \x7b\ngroup \x7b\nmodel \x7b\na = person \"\x7d\" \x7b \x7d\n"
        ++ "views \x7b\ncontainer a\n\x7d\na -> a\nmodel \x7b\na -> b").toList
    (∀ e ∈ Entry.all .flat content, e.region ≠ .outside →
      Region.opened? e.statement.text = none →
      (Token.braces (Token.scan e.statement.text)).opening
        = (Token.braces (Token.scan e.statement.text)).closing) ∧
    ofDocument ⟨.nested, true⟩ content = ofDocument ⟨.flat, true⟩ content :=
  ⟨by decide +kernel, (ofDocument_nested_eq_flat (by decide +kernel)).2 true⟩

end C4Lint.Validation
