/-
# The lines of the statements

A document has at most one statement on each line, and the statements come in the order of their
lines.  The main statements are `Statement.mem_all_iff`, which finds each statement on its line, and
`Entry.pairwise_line_all`, by which an entry is known by its line.

Blanks at the ends of lines play no role (`Statement.ofLines_eq_of_map_trim_eq`), and so the lines
may be taken to be what stands between line feeds, be it empty or not (`Statement.all_eq_ofLines`).
-/
import Mathlib.Data.List.Nodup
import Mathlib.Tactic.Common
import C4Lint.Proofs.Text.Lines
import C4Lint.Proofs.Text.Trim
import C4Lint.Entry

namespace C4Lint

namespace Statement

lemma mem_ofLines_iff {n : Nat} {ls : List Text} {s : Statement} :
    s ∈ ofLines n ls ↔ ∃ i l, ls[i]? = some l ∧ ofLine? (n + i) l = some s := by
  induction ls generalizing n with
  | nil => simp [ofLines]
  | cons l ls ih =>
    rw [ofLines, List.mem_append, Option.mem_toList, ih]
    constructor
    · rintro (h | ⟨i, k, hk, h⟩)
      · exact ⟨0, l, rfl, h⟩
      · exact ⟨i + 1, k, hk, by rw [← h, Nat.add_assoc, Nat.add_comm 1 i]⟩
    · rintro ⟨i, k, hk, h⟩
      cases i with
      | zero =>
        obtain rfl : l = k := by simpa using hk
        exact Or.inl h
      | succ i => exact Or.inr ⟨i, k, hk, by rw [← h, Nat.add_assoc, Nat.add_comm 1 i]⟩

lemma line_of_ofLine? {n : Nat} {l : Text} {s : Statement} (h : ofLine? n l = some s) :
    s.line = n := by
  obtain ⟨-, rfl⟩ := ofLine?_eq_some_iff.1 h
  rfl

lemma le_line_of_mem_ofLines {n : Nat} {ls : List Text} {s : Statement} (h : s ∈ ofLines n ls) :
    n ≤ s.line := by
  obtain ⟨i, l, -, hs⟩ := mem_ofLines_iff.1 h
  rw [line_of_ofLine? hs]
  exact Nat.le_add_right n i

lemma pairwise_line_ofLines (n : Nat) (ls : List Text) :
    (ofLines n ls).Pairwise fun s t => s.line < t.line := by
  induction ls generalizing n with
  | nil => exact List.Pairwise.nil
  | cons l ls ih =>
    rw [ofLines, List.pairwise_append]
    refine ⟨?_, ih (n + 1), ?_⟩
    · cases ofLine? n l with
      | none => exact List.Pairwise.nil
      | some s => exact List.pairwise_singleton _ _
    · intro s hs t ht
      have hst : s.line = n := line_of_ofLine? (Option.mem_toList.1 hs)
      have := le_line_of_mem_ofLines ht
      omega

/-- The statements of a document are the lines of which something is left without blanks and
comments, each with its number and its source. -/
theorem mem_all_iff {content : Text} {s : Statement} :
    s ∈ all content ↔ ∃ i l, (Text.lines content)[i]? = some l ∧ stripComment l ≠ [] ∧
      s = ⟨i + 1, stripComment l, Text.trim l⟩ := by
  simp only [all, mem_ofLines_iff, ofLine?_eq_some_iff, Nat.add_comm 1]

/-! ### Blanks at the ends of lines -/

lemma stripComment_trim (l : Text) : stripComment (Text.trim l) = stripComment l := by
  rw [stripComment, stripComment, Text.trim_trim]

/-- Lines that are the same when they are trimmed hold the same statement. -/
lemma ofLine?_eq_of_trim_eq {n : Nat} {l m : Text} (h : Text.trim l = Text.trim m) :
    ofLine? n l = ofLine? n m := by
  have hstrip : stripComment l = stripComment m := by
    rw [← stripComment_trim l, h, stripComment_trim]
  rw [ofLine?, ofLine?, hstrip, h]

lemma ofLine?_nil (n : Nat) : ofLine? n [] = none := rfl

theorem ofLines_eq_of_map_trim_eq {n : Nat} {ls ms : List Text}
    (h : ls.map Text.trim = ms.map Text.trim) : ofLines n ls = ofLines n ms := by
  induction ls generalizing n ms with
  | nil =>
    obtain rfl := List.map_eq_nil_iff.1 h.symm
    rfl
  | cons l ls ih =>
    obtain ⟨m, ms, rfl, hm, hms⟩ := List.map_eq_cons_iff.1 h.symm
    rw [ofLines, ofLines, ofLine?_eq_of_trim_eq hm, ih hms.symm]

/-- An empty last line and carriage returns make no difference to the statements. -/
lemma ofLines_linesOfPieces (n : Nat) (ls : List Text) :
    ofLines n (Text.linesOfPieces ls) = ofLines n ls := by
  induction ls generalizing n with
  | nil => rfl
  | cons l ls ih =>
    cases ls with
    | nil =>
      rw [Text.linesOfPieces]
      split_ifs with hl
      · rw [List.isEmpty_iff.1 hl]
        rfl
      · rfl
    | cons m ms =>
      rw [Text.linesOfPieces, ofLines, ih, ofLine?_eq_of_trim_eq (Text.trim_dropReturn l)]
      rfl

/-- The statements of a document stand between its line feeds. -/
theorem all_eq_ofLines (content : Text) : all content = ofLines 1 (content.splitOn '\n') :=
  ofLines_linesOfPieces 1 _

/-! ### Replacing lines -/

/-- If new lines do to each statement what `g` does to it, they do so to all of them. -/
lemma ofLines_mapIdx {f : Nat → Text → Text} {g : Statement → Option Statement}
    (h : ∀ n l, ofLine? n (f n l) = (ofLine? n l).bind g) (n : Nat) (ls : List Text) :
    ofLines n (ls.mapIdx fun i l => f (i + n) l) = (ofLines n ls).filterMap g := by
  induction ls generalizing n with
  | nil => rfl
  | cons l ls ih =>
    have hfirst : (ofLine? n (f n l)).toList = (ofLine? n l).toList.filterMap g := by
      rw [h n l]
      cases ofLine? n l with
      | none => rfl
      | some s => cases hs : g s <;> simp [hs]
    have hrest : (ls.mapIdx fun i l => f (i + 1 + n) l)
        = ls.mapIdx fun i l => f (i + (n + 1)) l := by
      simp only [Nat.add_assoc, Nat.add_comm 1 n]
    rw [List.mapIdx_cons, ofLines, ofLines, List.filterMap_append, hrest, ih (n + 1), Nat.zero_add,
      hfirst]

/-- What replacing lines does to the statements of a document. -/
theorem all_replaceLines {f : Nat → Text → Text} {g : Statement → Option Statement}
    (hf : ∀ n l, '\n' ∉ l → '\n' ∉ f n l) (h : ∀ n l, ofLine? n (f n l) = (ofLine? n l).bind g)
    (content : Text) : all (Text.replaceLines f content) = (all content).filterMap g := by
  rw [all_eq_ofLines, all_eq_ofLines, Text.splitOn_replaceLines hf, ofLines_mapIdx h]

/-- Clearing a line takes the statement on it and leaves the others. -/
theorem all_clearLine (n : Nat) (content : Text) :
    all (Text.clearLine n content) = (all content).filter fun s => s.line ≠ n := by
  have hline : ∀ m l, ofLine? m (if m = n then [] else l)
      = (ofLine? m l).bind (Option.guard fun s => s.line ≠ n) := by
    intro m l
    rw [Option.bind_guard]
    split_ifs with hm
    · -- a statement on this line would have its number
      rw [ofLine?_nil, eq_comm, Option.filter_eq_none_iff]
      intro s hs
      simp [line_of_ofLine? hs, hm]
    · cases hs : ofLine? m l with
      | none => rfl
      | some s => rw [Option.filter_some_pos (by simp [line_of_ofLine? hs, hm])]
  have hnewline : ∀ m l, '\n' ∉ l → '\n' ∉ (if m = n then [] else l) := by
    intro m l hl
    split_ifs
    · exact List.not_mem_nil
    · exact hl
  rw [Text.clearLine, all_replaceLines hnewline hline, List.filterMap_eq_filter]

end Statement

namespace Entry

lemma map_statement_ofStatements (nesting : Nesting) (k : Tracker) (ss : List Statement) :
    (ofStatements nesting k ss).map Entry.statement = ss := by
  induction ss generalizing k with
  | nil => rfl
  | cons s ss ih => rw [ofStatements_cons, List.map_cons, ih]

lemma map_statement_all (nesting : Nesting) (content : Text) :
    (all nesting content).map Entry.statement = Statement.all content :=
  map_statement_ofStatements nesting {} _

lemma statement_mem_all {nesting : Nesting} {content : Text} {e : Entry}
    (h : e ∈ all nesting content) : e.statement ∈ Statement.all content := by
  rw [← map_statement_all nesting]
  exact List.mem_map_of_mem h

/-- The entries of a document stand on lines of their own, in the order of these lines. -/
theorem pairwise_line_all (nesting : Nesting) (content : Text) :
    (all nesting content).Pairwise fun e f => e.line < f.line := by
  have h := Statement.pairwise_line_ofLines 1 (Text.lines content)
  rw [← Statement.all, ← map_statement_all nesting, List.pairwise_map] at h
  exact h

/-- The line of an entry is one of the document, and trimmed it is the source of its statement. -/
lemma exists_line_of_mem_all {nesting : Nesting} {content : Text} {e : Entry}
    (h : e ∈ all nesting content) :
    ∃ i l, (Text.lines content)[i]? = some l ∧ e.line = i + 1 ∧ e.statement.source = Text.trim l := by
  obtain ⟨i, l, hl, -, hstatement⟩ := Statement.mem_all_iff.1 (statement_mem_all h)
  exact ⟨i, l, hl, congrArg Statement.line hstatement, congrArg Statement.source hstatement⟩

/-- The entries before one of them are on earlier lines, and those behind it on later ones. -/
lemma line_lt_of_pairwise_append_cons {es fs : List Entry} {e : Entry}
    (h : (es ++ e :: fs).Pairwise fun e f => e.line < f.line) :
    (∀ f ∈ es, f.line < e.line) ∧ ∀ f ∈ fs, e.line < f.line := by
  obtain ⟨-, hrest, hbefore⟩ := List.pairwise_append.1 h
  exact ⟨fun f hf => hbefore f hf e List.mem_cons_self, (List.pairwise_cons.1 hrest).1⟩

/-- Two entries of a document on one line are the same entry. -/
lemma eq_of_line_eq {es : List Entry} (hes : es.Pairwise fun e f => e.line < f.line) {e f : Entry}
    (he : e ∈ es) (hf : f ∈ es) (h : e.line = f.line) : e = f := by
  have hnodup : (es.map Entry.line).Nodup :=
    List.pairwise_map.2 (hes.imp fun hlt => Nat.ne_of_lt hlt)
  exact List.inj_on_of_nodup_map hnodup he hf h

end Entry

end C4Lint
