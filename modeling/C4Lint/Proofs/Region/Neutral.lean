/-
# Statements that leave the tracker as it is

A tracker takes in every statement, also those that come to nothing.  What counts is how a statement
is spelled: a neutral one opens no section and closes none.  Under the nested rule it has to open as
many braces as it closes, and then it leaves the tracker as it is, unless the tracker is in a
section that should have ended already.  No tracker gets there, which is the invariant
`Tracker.InBlock`.

Neutral statements can be left out of a document, and the others keep their regions: this is
`Entry.ofStatements_filter`.  A statement that is malformed in its region opens no section and is no
single closing brace (`Reading.neutral_of_malformed`).
-/
import C4Lint.Proofs.Region.Flat

namespace C4Lint

open Token (braces scan)

variable {nesting : Nesting} {t : Text}

/-- The statement opens no section and closes none: it is no single closing brace or, where braces
are counted, it opens as many as it closes. -/
def Nesting.Neutral (nesting : Nesting) (t : Text) : Prop :=
  Region.opened? t = none ∧ match nesting with
    | .flat => t ≠ "\x7d".toList
    | .nested => (braces (scan t)).opening = (braces (scan t)).closing

namespace Tracker

variable {k : Tracker}

/-- In a nested section, more braces are open than before the section. -/
def InBlock (nesting : Nesting) (k : Tracker) : Prop :=
  nesting = .nested → k.region ≠ .outside → k.openedAt < k.depth

lemma inBlock_initial (nesting : Nesting) : InBlock nesting {} := fun _ h => absurd rfl h

/-- Whatever the statement and the tracker before it, a tracker that is in a section behind the
statement has a brace of it open. -/
theorem inBlock_advance (nesting : Nesting) (k : Tracker) (t : Text) :
    InBlock nesting (advance nesting k t) := by
  rintro rfl hregion
  cases hopened : Region.opened? t with
  | some r =>
    rw [advance_nested_of_opened? hopened]
    exact Nat.lt_succ_self _
  | none =>
    rw [advance, advanceNested, hopened] at hregion ⊢
    by_contra hle
    exact hregion (if_pos (Nat.not_lt.1 hle))

/-- A neutral statement leaves the tracker as it is. -/
theorem advance_of_neutral (hk : InBlock nesting k) (ht : nesting.Neutral t) :
    advance nesting k t = k := by
  obtain ⟨hopened, hrest⟩ := ht
  cases nesting with
  | flat => exact advance_flat_of_ne hopened hrest
  | nested =>
    have hdepth : k.depth + (braces (scan t)).opening - (braces (scan t)).closing = k.depth := by
      have heq : (braces (scan t)).opening = (braces (scan t)).closing := hrest
      omega
    have hregion : (if k.depth ≤ k.openedAt then .outside else k.region) = k.region := by
      split_ifs with hle
      · -- by the invariant, only outside of the sections no brace needs to be open
        by_contra hne
        exact absurd (hk rfl (Ne.symm hne)) (Nat.not_lt.2 hle)
      · rfl
    rw [advance, advanceNested, hopened]
    simp only [hdepth, hregion]

end Tracker

/-- Neutral statements can be left out: the others keep their regions. -/
theorem Entry.ofStatements_filter {k : Tracker} (hk : k.InBlock nesting) {p : Statement → Bool}
    {ss : List Statement} (h : ∀ s ∈ ss, p s = false → nesting.Neutral s.text) :
    ofStatements nesting k (ss.filter p)
      = (ofStatements nesting k ss).filter fun e => p e.statement := by
  induction ss generalizing k with
  | nil => rfl
  | cons s ss ih =>
    obtain ⟨hs, hrest⟩ := List.forall_mem_cons.1 h
    rw [ofStatements_cons]
    cases hp : p s with
    | true =>
      rw [List.filter_cons_of_pos hp, List.filter_cons_of_pos (by simpa using hp),
        ofStatements_cons, ih (Tracker.inBlock_advance nesting k s.text) hrest]
    | false =>
      rw [List.filter_cons_of_neg (by simp [hp]), List.filter_cons_of_neg (by simp [hp]),
        ih hk hrest, Tracker.advance_of_neutral hk (hs hp)]

/-! ### Malformed statements -/

/-- The statements that open and close sections are not meant as declarations anywhere. -/
lemma Reading.of_section (region : Region) :
    ∀ t ∈ ["model \x7b".toList, "views \x7b".toList, "\x7d".toList],
      Reading.of region t = .ignored := by
  cases region <;> decide +kernel

/-- A malformed statement is neutral, if under the nested rule it opens as many braces as it
closes. -/
theorem Reading.neutral_of_malformed {region : Region} {f : Form}
    (h : Reading.of region t = .malformed f)
    (hbal : nesting = .nested → (braces (scan t)).opening = (braces (scan t)).closing) :
    nesting.Neutral t := by
  have hsection : t ∉ ["model \x7b".toList, "views \x7b".toList, "\x7d".toList] := by
    intro ht
    rw [Reading.of_section region t ht] at h
    cases h
  have hopened : Region.opened? t = none := by
    by_contra hne
    obtain ⟨r, hr⟩ := Option.ne_none_iff_exists'.1 hne
    obtain ⟨houtside, rfl⟩ := Region.opened?_eq_some_iff.1 hr
    cases r with
    | outside => exact houtside rfl
    | model => exact hsection (by decide)
    | views => exact hsection (by decide)
  refine ⟨hopened, ?_⟩
  cases nesting with
  | flat =>
    rintro rfl
    simp at hsection
  | nested => exact hbal rfl

end C4Lint
