/-
# Flat sections lie within nested ones

Flat sections end too early where they hold blocks: the brace that closes a block ends them, and
nested sections go on until their own brace comes.  So the two rules do not agree, but what is in a
flat section is in the nested section of the same kind.  `Tracker.Within` is what the trackers have
in common then, and it bounds the count of the nested tracker from below: as long as the flat one is
in a section, the brace of the nested section is still open (`Tracker.Within.advance`).

This takes documents in which a statement that closes more braces than it opens is a single closing
brace, so that none ends a nested section and leaves the flat one.  Nothing is asked of the others.
-/
import Mathlib.Data.List.Forall2
import C4Lint.Proofs.Region.Flat

namespace C4Lint

open Token (braces scan)

/-- A statement that closes more braces than it opens is a single closing brace. -/
def Statement.ClosesAlone (s : Statement) : Prop :=
  (braces (scan s.text)).opening < (braces (scan s.text)).closing → s.text = "\x7d".toList

instance (s : Statement) : Decidable s.ClosesAlone := inferInstanceAs (Decidable (_ → _))

namespace Tracker

/-- The first tracker is outside of the sections, or both are in the same section and its brace is
among those that the second one has open. -/
structure Within (flat nested : Tracker) : Prop where
  /-- In a section, the regions agree. -/
  region_eq : flat.region ≠ .outside → nested.region = flat.region
  /-- In a section, more braces are open than before it. -/
  openedAt_lt : flat.region ≠ .outside → nested.openedAt < nested.depth

variable {f n : Tracker}

lemma within_of_outside (h : f.region = .outside) : Within f n :=
  ⟨fun hne => absurd h hne, fun hne => absurd h hne⟩

/-- A statement keeps the first tracker within the second. -/
theorem Within.advance (h : Within f n) {s : Statement} (hs : s.ClosesAlone) :
    Within (advance .flat f s.text) (advance .nested n s.text) := by
  cases hopened : Region.opened? s.text with
  | some r =>
    -- both enter the section, and the second counts its brace
    rw [advance_flat_of_opened? hopened, advance_nested_of_opened? hopened]
    exact ⟨fun _ => rfl, fun _ => Nat.lt_succ_self _⟩
  | none =>
    by_cases ht : s.text = "\x7d".toList
    · rw [advance_flat_of_closing hopened ht]
      exact within_of_outside rfl
    · rw [advance_flat_of_ne hopened ht]
      by_cases hregion : f.region = .outside
      · exact within_of_outside hregion
      · -- the first stays, and the statement closes no more braces than it opens
        have hdepth := h.openedAt_lt hregion
        have hle : (braces (scan s.text)).closing ≤ (braces (scan s.text)).opening :=
          Nat.not_lt.1 fun hlt => ht (hs hlt)
        obtain ⟨hr, ho, hd⟩ := advance_nested_of_lt (k := n) hopened (by omega)
        exact ⟨fun hne => hr.trans (h.region_eq hne), fun _ => by omega⟩

end Tracker

namespace Entry

/-- The entries are of one statement, and the first is outside of the sections or in the section of
the second. -/
structure Within (e f : Entry) : Prop where
  /-- The statements are the same. -/
  statement_eq : f.statement = e.statement
  /-- The regions agree unless the first is outside of the sections. -/
  region_eq : e.region = .outside ∨ e.region = f.region

/-- Statement by statement, the flat sections lie within the nested ones. -/
theorem ofStatements_within {f n : Tracker} (h : Tracker.Within f n) {ss : List Statement}
    (hss : ∀ s ∈ ss, s.ClosesAlone) :
    List.Forall₂ Within (ofStatements .flat f ss) (ofStatements .nested n ss) := by
  induction ss generalizing f n with
  | nil => exact .nil
  | cons s ss ih =>
    obtain ⟨hs, hrest⟩ := List.forall_mem_cons.1 hss
    have hstep := h.advance hs
    rw [ofStatements_cons, ofStatements_cons]
    exact .cons ⟨rfl, or_iff_not_imp_left.2 fun hne => (hstep.region_eq hne).symm⟩ (ih hstep hrest)

/-- In a document, the flat sections lie within the nested ones. -/
theorem all_within {content : Text} (h : ∀ s ∈ Statement.all content, s.ClosesAlone) :
    List.Forall₂ Within (all .flat content) (all .nested content) :=
  ofStatements_within (Tracker.within_of_outside rfl) h

end Entry

end C4Lint
