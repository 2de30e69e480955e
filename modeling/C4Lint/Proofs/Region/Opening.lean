/-
# Where a section was opened

A tracker is in a section only because some statement has opened it, and statements stand in the
document as they are written.  So the outline check, which knows nothing of statements and searches
the whole text for a section, finds it wherever a statement belongs to one: this is
`Outline.opens_of_mem_all`.
-/
import C4Lint.Proofs.Outline
import C4Lint.Proofs.Region.Nested
import C4Lint.Proofs.Statement.Comment

namespace C4Lint

variable {nesting : Nesting} {content : Text}

/-- Behind a statement the region is what it was, or the statement opens it, or it is none of the
sections. -/
theorem Tracker.region_advance (nesting : Nesting) (k : Tracker) (t : Text) :
    (advance nesting k t).region = .outside ∨ (advance nesting k t).region = k.region ∨
      Region.opened? t = some (advance nesting k t).region := by
  cases nesting with
  | flat =>
    rw [advance, advanceFlat]
    split
    · next r hopened => exact Or.inr (Or.inr hopened)
    · split_ifs <;> simp
  | nested =>
    rw [advance, advanceNested]
    split
    · next r hopened => exact Or.inr (Or.inr hopened)
    · dsimp only
      split_ifs <;> simp

namespace Entry

/-- If a statement belongs to a section, then so did the tracker before all statements, or one of
them opens the section. -/
theorem exists_opened?_of_mem_ofStatements {k : Tracker} {ss : List Statement} {e : Entry}
    (he : e ∈ ofStatements nesting k ss) (hr : e.region ≠ .outside) :
    e.region = k.region ∨ ∃ s ∈ ss, Region.opened? s.text = some e.region := by
  induction ss generalizing k with
  | nil => exact absurd he List.not_mem_nil
  | cons s ss ih =>
    -- a region behind the first statement is one before it or is opened by it
    have hfirst : e.region = (Tracker.advance nesting k s.text).region →
        e.region = k.region ∨ ∃ u ∈ s :: ss, Region.opened? u.text = some e.region := by
      intro heq
      rw [heq] at hr ⊢
      rcases Tracker.region_advance nesting k s.text with h | h | h
      · exact absurd h hr
      · exact Or.inl h
      · exact Or.inr ⟨s, List.mem_cons_self, h⟩
    rw [ofStatements_cons, List.mem_cons] at he
    rcases he with rfl | he
    · exact hfirst rfl
    · rcases ih he with heq | ⟨u, hu, hopened⟩
      · exact hfirst heq
      · exact Or.inr ⟨u, List.mem_cons_of_mem _ hu, hopened⟩

/-- In a document, a section that a statement belongs to is opened by a statement. -/
lemma exists_opened?_of_mem_all {e : Entry} (he : e ∈ all nesting content)
    (hr : e.region ≠ .outside) :
    ∃ s ∈ Statement.all content, Region.opened? s.text = some e.region :=
  (exists_opened?_of_mem_ofStatements he hr).resolve_left hr

end Entry

/-- The outline check finds every section that a statement belongs to. -/
theorem Outline.opens_of_mem_all {e : Entry} (he : e ∈ Entry.all nesting content)
    (hr : e.region ≠ .outside) : Opens e.region.keyword content := by
  obtain ⟨s, hs, hopened⟩ := Entry.exists_opened?_of_mem_all he hr
  obtain ⟨u, v, hcontent⟩ := Statement.exists_append_of_mem_all hs
  have hspace : Text.Blanks [' '] := by decide
  refine ⟨u, [' '], v, hspace, ?_⟩
  rw [hcontent, (Region.opened?_eq_some_iff.1 hopened).2]
  simp

end C4Lint
