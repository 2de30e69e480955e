/-
# Flat and nested sections side by side

The two rules for the end of a section differ where blocks stand inside a section.  Where there are
none they come to the same: `Tracker.Alike` relates a flat and a nested tracker that are in the same
region and, in a section, have no brace open but that of the section.  Statements that open as many
braces as they close keep the two alike (`Tracker.Alike.advance`), and so the entries are the same
(`Entry.ofStatements_nested_eq_flat`).  Outside of the sections the count of the nested tracker may
be anything, since the next section starts from it.
-/
import C4Lint.Proofs.Region.Nested

namespace C4Lint

open Token (braces scan)

namespace Tracker

/-- The two trackers are in the same region.  If it is a section, then the second counts one open
brace more than before the section. -/
structure Alike (flat nested : Tracker) : Prop where
  /-- The regions agree. -/
  region_eq : nested.region = flat.region
  /-- In a section, only its own brace is open. -/
  depth_eq : flat.region ≠ .outside → nested.depth = nested.openedAt + 1

variable {f n : Tracker} {t : Text}

lemma advance_flat_of_opened? {r : Region} (h : Region.opened? t = some r) :
    advance .flat f t = { f with region := r } := by
  rw [advance, advanceFlat, h]

lemma advance_flat_of_closing (h : Region.opened? t = none) (ht : t = "\x7d".toList) :
    advance .flat f t = { f with region := .outside } := by
  rw [advance, advanceFlat, h]
  exact if_pos ht

lemma advance_flat_of_ne (h : Region.opened? t = none) (ht : t ≠ "\x7d".toList) :
    advance .flat f t = f := by
  rw [advance, advanceFlat, h]
  exact if_neg ht

lemma alike_initial : Alike {} {} := ⟨rfl, fun h => absurd rfl h⟩

/-- A statement keeps the trackers alike if it opens as many braces as it closes.  Nothing is asked
of a statement that the flat tracker has outside of the sections, be it a closing brace or not. -/
theorem Alike.advance (h : Alike f n)
    (hbal : (advance .flat f t).region ≠ .outside → Region.opened? t = none →
      (braces (scan t)).opening = (braces (scan t)).closing) :
    Alike (advance .flat f t) (advance .nested n t) := by
  cases hopened : Region.opened? t with
  | some r =>
    rw [advance_flat_of_opened? hopened, advance_nested_of_opened? hopened]
    exact ⟨rfl, fun _ => rfl⟩
  | none =>
    by_cases hregion : f.region = .outside
    · -- outside of the sections both stay there
      have hn := region_advance_nested_of_outside hopened (h.region_eq.trans hregion)
      have hf : (Tracker.advance .flat f t).region = .outside := by
        by_cases ht : t = "\x7d".toList
        · rw [advance_flat_of_closing hopened ht]
        · rw [advance_flat_of_ne hopened ht, hregion]
      exact ⟨hn.trans hf.symm, fun hne => absurd hf hne⟩
    · have hdepth := h.depth_eq hregion
      by_cases ht : t = "\x7d".toList
      · -- a closing brace is the one that closes the section
        have hclose : (braces (scan t)).opening = 0 ∧ (braces (scan t)).closing = 1 := by
          rw [ht]
          decide +kernel
        have hn := region_advance_nested_of_le (k := n) hopened (by omega)
        rw [advance_flat_of_closing hopened ht]
        exact ⟨hn, fun hne => absurd rfl hne⟩
      · rw [advance_flat_of_ne hopened ht] at hbal ⊢
        have heq := hbal hregion hopened
        obtain ⟨hr, ho, hd⟩ := advance_nested_of_lt (k := n) hopened (by omega)
        exact ⟨hr.trans h.region_eq, fun _ => by omega⟩

end Tracker

namespace Entry

/-- The statement opens as many braces as it closes, unless it stands outside of the sections or
opens one. -/
def HasNoBlock (e : Entry) : Prop :=
  e.region ≠ .outside → Region.opened? e.statement.text = none →
    (braces (scan e.statement.text)).opening = (braces (scan e.statement.text)).closing

instance (e : Entry) : Decidable e.HasNoBlock :=
  inferInstanceAs (Decidable (_ → _ → _))

/-- Without blocks inside the sections, statements belong to the same regions under both rules. -/
theorem ofStatements_nested_eq_flat {f n : Tracker} (h : Tracker.Alike f n) (ss : List Statement)
    (hss : ∀ e ∈ ofStatements .flat f ss, e.HasNoBlock) :
    ofStatements .nested n ss = ofStatements .flat f ss := by
  induction ss generalizing f n with
  | nil => rfl
  | cons s ss ih =>
    rw [ofStatements_cons] at hss
    have hstep := h.advance (t := s.text) (hss _ List.mem_cons_self)
    rw [ofStatements_cons, ofStatements_cons, hstep.region_eq,
      ih hstep fun e he => hss e (List.mem_cons_of_mem _ he)]

/-- A document without blocks inside its sections has the same entries under both rules. -/
theorem all_nested_eq_flat {content : Text} (h : ∀ e ∈ all .flat content, e.HasNoBlock) :
    all .nested content = all .flat content :=
  ofStatements_nested_eq_flat Tracker.alike_initial _ h

end Entry

end C4Lint
