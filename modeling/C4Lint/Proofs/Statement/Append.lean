/-
# Statements of one text behind another

A statement stands on one line, so that a text can be cut at any line feed.  The statements of a
text on the lines behind another one are those of the first and then those of the second, which only
have other line numbers: this is `Statement.all_append_newline`.  The first text may end in a line
feed or a carriage return of its own.

`Statement.StandsIn` says how a statement and its line belong together.  The main statement is
`Statement.all_line_by_line`.
-/
import C4Lint.Proofs.Statement.Comment

namespace C4Lint.Statement

/-- The statement with `n` more lines before it. -/
def below (n : Nat) (s : Statement) : Statement := { s with line := n + s.line }

lemma ofLine?_add (m n : Nat) (l : Text) : ofLine? (m + n) l = (ofLine? n l).map (below m) := by
  rw [ofLine?, ofLine?]
  cases stripComment l <;> rfl

/-- Lines that stand further down hold the same statements. -/
lemma ofLines_add (m n : Nat) (ls : List Text) :
    ofLines (m + n) ls = (ofLines n ls).map (below m) := by
  induction ls generalizing n with
  | nil => rfl
  | cons l ls ih =>
    have hfirst : (ofLine? (m + n) l).toList = (ofLine? n l).toList.map (below m) := by
      rw [ofLine?_add]
      cases ofLine? n l <;> rfl
    rw [ofLines, ofLines, List.map_append, hfirst, Nat.add_assoc, ih]

lemma ofLines_append (n : Nat) (ls ms : List Text) :
    ofLines n (ls ++ ms) = ofLines n ls ++ ofLines (n + ls.length) ms := by
  induction ls generalizing n with
  | nil => rfl
  | cons l ls ih =>
    rw [List.cons_append, ofLines, ofLines, ih, List.append_assoc, List.length_cons,
      Nat.add_assoc, Nat.add_comm 1]

/-- The statements of a text behind another one are those of the first and those of the second, and
the line feeds of the first say how far down the second stands. -/
theorem all_append_newline (a b : Text) :
    all (a ++ '\n' :: b) = all a ++ (all b).map (below (a.count '\n' + 1)) := by
  rw [all_eq_ofLines, all_eq_ofLines, all_eq_ofLines, List.splitOn_append_cons_self, ofLines_append,
    Text.length_splitOn, Nat.add_comm 1, ofLines_add]

/-! ### Statements and their lines -/

/-- The statement is what one of the lines of the text holds. -/
structure StandsIn (s : Statement) (content : Text) : Prop where
  /-- The lines are numbered from one on. -/
  line_pos : 1 ≤ s.line
  /-- The number is that of a line. -/
  line_le : s.line ≤ (Text.lines content).length
  /-- The source is that line without the blanks at its ends. -/
  source_eq : (Text.lines content)[s.line - 1]?.map Text.trim = some s.source
  /-- Something is left of the line without its comment. -/
  text_ne_nil : s.text ≠ []
  /-- What is left has no blanks at its ends. -/
  trim_text : Text.trim s.text = s.text
  /-- It is the front of the source. -/
  text_prefix_source : s.text <+: s.source

/-- The statement on a line stands there. -/
lemma standsIn_of_getElem? {content l : Text} {i : Nat} (hl : (Text.lines content)[i]? = some l)
    (hne : stripComment l ≠ []) : StandsIn ⟨i + 1, stripComment l, Text.trim l⟩ content where
  line_pos := Nat.le_add_left 1 i
  line_le := (List.getElem?_eq_some_iff.1 hl).1
  source_eq := by rw [Nat.add_sub_cancel, hl, Option.map_some]
  text_ne_nil := hne
  trim_text := trim_stripComment l
  text_prefix_source := stripComment_prefix_trim l

/-- A text can be taken apart at its line feeds: the statements of two texts, one on the lines behind
the other, are those of the first and those of the second, the latter further down by one line and
one more for each line feed of the first.  The statements of a text stand on its lines, each line has
one at most, and it has one unless nothing is left of it without blanks and a comment. -/
theorem all_line_by_line :
    (∀ a b : Text, all (a ++ '\n' :: b)
      = all a ++ (all b).map fun s => { s with line := 1 + a.count '\n' + s.line }) ∧
    ∀ content : Text,
      ((all content).Pairwise fun s t => s.line < t.line) ∧
      (∀ s ∈ all content, s.StandsIn content) ∧
      ∀ i l, (Text.lines content)[i]? = some l →
        ((∃ s ∈ all content, s.line = i + 1) ↔ stripComment l ≠ []) := by
  refine ⟨fun a b => ?_, fun content => ⟨pairwise_line_ofLines 1 _, fun s hs => ?_, ?_⟩⟩
  · rw [all_append_newline, Nat.add_comm (a.count '\n')]
    rfl
  · obtain ⟨i, l, hl, hne, rfl⟩ := mem_all_iff.1 hs
    exact standsIn_of_getElem? hl hne
  · intro i l hl
    constructor
    · rintro ⟨s, hs, hline⟩
      obtain ⟨j, m, hm, hne, rfl⟩ := mem_all_iff.1 hs
      obtain rfl : j = i := Nat.succ.inj hline
      obtain rfl : m = l := Option.some.inj (hm.symm.trans hl)
      exact hne
    · intro hne
      exact ⟨_, mem_all_iff.2 ⟨i, l, hl, hne, rfl⟩, rfl⟩

/-- The first text ends in a carriage return and a line feed, and the second begins with a line feed
and ends in a statement whose string looks like a comment. -/
theorem all_line_by_line_at_seam :
    let a := "model \x7b\r\n".toList
    let b := "\n # note\n\tx -> y \"#1\" // z \r".toList
    let s : Statement := ⟨5, "x -> y \"#1\"".toList, "x -> y \"#1\" // z".toList⟩
    let blank := "".toList
    all (a ++ '\n' :: b) = all a ++ (all b).map (fun t => { t with line := 2 + t.line }) ∧
    s ∈ all (a ++ '\n' :: b) ∧ s.StandsIn (a ++ '\n' :: b) ∧
    (Text.lines (a ++ '\n' :: b))[1]? = some blank ∧ ¬∃ t ∈ all (a ++ '\n' :: b), t.line = 2 := by
  intro a b s blank
  have hmem : s ∈ all (a ++ '\n' :: b) := by decide +kernel
  have hblank : (Text.lines (a ++ '\n' :: b))[1]? = some blank := by decide +kernel
  obtain ⟨happend, hlines⟩ := all_line_by_line
  obtain ⟨-, hstands, hone⟩ := hlines (a ++ '\n' :: b)
  refine ⟨happend a b, hmem, hstands s hmem, hblank, fun h => ?_⟩
  exact (hone 1 blank hblank).1 h rfl

end C4Lint.Statement
