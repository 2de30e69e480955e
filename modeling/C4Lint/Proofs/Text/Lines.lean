/-
# Reading lines back

A text that is written line by line is read line by line: `lines_unlines_append` takes whole lines
off the front of a text, and `lines_of_writtenOn` reads a text whose last line may be left open.

Lines can also be replaced where they stand: `replaceLines` does so with what stands between line
feeds, and by `splitOn_replaceLines` the new lines are then what stands there.
-/
import Mathlib.Data.List.Basic
import Mathlib.Tactic.Common
import C4Lint.Text.Line

namespace C4Lint.Text

variable {l t : Text} {ls : List Text}

/-- A line that is closed by a line feed is read off the front of a text. -/
lemma lines_append_cons (hl : '\n' ∉ l) : lines (l ++ '\n' :: t) = dropReturn l :: lines t := by
  obtain ⟨piece, pieces, hpieces⟩ := List.exists_cons_of_ne_nil (List.splitOn_ne_nil '\n' t)
  rw [lines, List.splitOn_append_cons_self_of_not_mem hl, lines, hpieces, linesOfPieces]

lemma lines_of_newline_not_mem (hl : '\n' ∉ l) (hne : l ≠ []) : lines l = [l] := by
  rw [lines, List.splitOn_eq_singleton hl, linesOfPieces, if_neg (by simpa using hne)]

/-- Closed lines are read off the front of a text one after another. -/
theorem lines_unlines_append (hls : ∀ l ∈ ls, '\n' ∉ l) (t : Text) :
    lines (unlines ls ++ t) = ls.map dropReturn ++ lines t := by
  induction ls with
  | nil => rfl
  | cons l ls ih =>
    rw [unlines_cons, List.append_assoc, List.cons_append,
      lines_append_cons (hls l List.mem_cons_self),
      ih fun m hm => hls m (List.mem_cons_of_mem _ hm), List.map_cons, List.cons_append]

lemma unlines_append (ls ms : List Text) : unlines (ls ++ ms) = unlines ls ++ unlines ms :=
  List.flatMap_append

/-- What stands between the line feeds of closed lines are these lines, and nothing behind the last
of them. -/
lemma splitOn_unlines (hls : ∀ l ∈ ls, '\n' ∉ l) : (unlines ls).splitOn '\n' = ls ++ [[]] := by
  induction ls with
  | nil => rfl
  | cons l ls ih =>
    rw [unlines_cons, List.splitOn_append_cons_self_of_not_mem (hls l List.mem_cons_self),
      ih fun m hm => hls m (List.mem_cons_of_mem _ hm), List.cons_append]

lemma dropReturn_eq_self (h : l.getLast? ≠ some '\r') : dropReturn l = l := if_neg h

lemma map_dropReturn_eq_self (h : ∀ l ∈ ls, l.getLast? ≠ some '\r') : ls.map dropReturn = ls := by
  rw [List.map_congr_left fun l hl => dropReturn_eq_self (h l hl), List.map_id']

/-- The text is written on the lines, the last of which may be closed by a line feed or not. -/
def WrittenOn (ls : List Text) (t : Text) : Prop := t = unlines ls ∨ t ++ ['\n'] = unlines ls

/-- The lines that a text is written on are those that are read, if no carriage return ends them and
the last is not empty. -/
theorem lines_of_writtenOn (h : WrittenOn (ls ++ [l]) t)
    (hls : ∀ m ∈ ls ++ [l], '\n' ∉ m ∧ m.getLast? ≠ some '\r') (hl : l ≠ []) :
    lines t = ls ++ [l] := by
  obtain ⟨hnewline, hreturn⟩ := hls l (by simp)
  have hfront : ∀ m ∈ ls, '\n' ∉ m := fun m hm => (hls m (List.mem_append_left _ hm)).1
  have hinit : ls.map dropReturn = ls :=
    map_dropReturn_eq_self fun m hm => (hls m (List.mem_append_left _ hm)).2
  rw [WrittenOn, unlines_append, unlines_cons, unlines_nil] at h
  rcases h with rfl | h
  · rw [lines_unlines_append hfront, hinit, lines_append_cons hnewline, dropReturn_eq_self hreturn]
    rfl
  · have ht : t = unlines ls ++ l := List.append_cancel_right (h.trans (List.append_assoc ..).symm)
    rw [ht, lines_unlines_append hfront, hinit, lines_of_newline_not_mem hnewline hl]

/-- Writing a text on lines adds nothing but line feeds. -/
lemma count_of_writtenOn {c : Char} (hc : c ≠ '\n') (h : WrittenOn ls t) :
    t.count c = ls.flatten.count c := by
  have hunlines : ∀ ms : List Text, (unlines ms).count c = ms.flatten.count c := by
    intro ms
    induction ms with
    | nil => rfl
    | cons m ms ih => simp [hc.symm, ih]
  rcases h with rfl | h
  · exact hunlines ls
  · rw [← hunlines, ← h, List.count_append]
    simp [hc.symm]

/-- A line that a text is written on stands in it. -/
lemma exists_append_of_writtenOn (h : WrittenOn ls t) (hl : l ∈ ls) : ∃ u v, t = u ++ l ++ v := by
  obtain ⟨before, after, rfl⟩ := List.append_of_mem hl
  rw [WrittenOn, unlines_append, unlines_cons] at h
  rcases h with rfl | h
  · exact ⟨unlines before, '\n' :: unlines after, by simp⟩
  · -- the line feed at the end closes this line or a later one
    rcases List.eq_nil_or_concat (unlines after) with hnil | ⟨rest, c, hrest⟩
    · rw [hnil, ← List.append_assoc] at h
      exact ⟨unlines before, [], by simpa using List.append_cancel_right h⟩
    · rw [hrest] at h
      have h' : t ++ ['\n'] = (unlines before ++ l ++ '\n' :: rest) ++ [c] := by simpa using h
      exact ⟨unlines before, '\n' :: rest, (List.append_inj' h' rfl).1⟩

/-! ### Replacing lines -/

/-- A text is one line without line feeds, or such a line and more behind a line feed. -/
lemma newline_not_mem_or_exists (t : Text) :
    '\n' ∉ t ∨ ∃ l u, '\n' ∉ l ∧ t = l ++ '\n' :: u := by
  by_cases h : '\n' ∈ t
  · obtain ⟨l, u, ht, hl⟩ := List.eq_append_cons_of_mem h
    exact Or.inr ⟨l, u, hl, ht⟩
  · exact Or.inl h

/-- Going through a text line by line, from its last line to its first. -/
theorem lines_induction {motive : Text → Prop} (last : ∀ l, '\n' ∉ l → motive l)
    (cons : ∀ l u, '\n' ∉ l → motive u → motive (l ++ '\n' :: u)) (t : Text) : motive t := by
  induction hn : t.length using Nat.strongRecOn generalizing t with
  | ind n ih =>
    subst hn
    rcases newline_not_mem_or_exists t with ht | ⟨l, u, hl, rfl⟩
    · exact last t ht
    · exact cons l u hl (ih u.length (by simp; omega) u rfl)

/-- What stands between line feeds holds none. -/
lemma newline_not_mem_of_mem_splitOn (h : l ∈ t.splitOn '\n') : '\n' ∉ l := by
  induction t using lines_induction with
  | last t ht =>
    rw [List.splitOn_eq_singleton ht, List.mem_singleton] at h
    rwa [h]
  | cons m u hm ih =>
    rw [List.splitOn_append_cons_self_of_not_mem hm, List.mem_cons] at h
    rcases h with rfl | h
    · exact hm
    · exact ih h

/-- What stands between line feeds stands in the text. -/
lemma exists_append_of_mem_splitOn (h : l ∈ t.splitOn '\n') : ∃ u v, t = u ++ l ++ v := by
  induction t using lines_induction with
  | last t ht =>
    rw [List.splitOn_eq_singleton ht, List.mem_singleton] at h
    exact ⟨[], [], by simp [h]⟩
  | cons m u hm ih =>
    rw [List.splitOn_append_cons_self_of_not_mem hm, List.mem_cons] at h
    rcases h with rfl | h
    · exact ⟨[], '\n' :: u, rfl⟩
    · obtain ⟨v, w, rfl⟩ := ih h
      exact ⟨m ++ '\n' :: v, w, by simp⟩

/-- Every line feed ends a line, and one more line stands behind the last of them. -/
lemma length_splitOn (t : Text) : (t.splitOn '\n').length = t.count '\n' + 1 := by
  induction t with
  | nil => simp
  | cons c t ih =>
    rw [List.splitOn_cons_eq_if_modifyHead]
    by_cases hc : c = '\n'
    · simp [hc, ih]
    · simp [hc, ih]

/-- The text in which each line `l`, the first one being line 1, is replaced by `f n l`, where `n`
is its number. -/
def replaceLines (f : Nat → Text → Text) (t : Text) : Text :=
  ['\n'].intercalate ((t.splitOn '\n').mapIdx fun i l => f (i + 1) l)

/-- New lines that hold no line feeds stand where the old ones did. -/
theorem splitOn_replaceLines {f : Nat → Text → Text} (hf : ∀ n l, '\n' ∉ l → '\n' ∉ f n l)
    (t : Text) :
    (replaceLines f t).splitOn '\n' = (t.splitOn '\n').mapIdx fun i l => f (i + 1) l := by
  refine List.splitOn_intercalate '\n' (fun m hm => ?_) ?_
  · obtain ⟨i, hi, rfl⟩ := List.mem_mapIdx.1 hm
    exact hf _ _ (newline_not_mem_of_mem_splitOn (List.getElem_mem hi))
  · rw [ne_eq, List.mapIdx_eq_nil_iff]
    exact List.splitOn_ne_nil '\n' t

/-- The text in which nothing is left of the line with the number `n`. -/
def clearLine (n : Nat) : Text → Text := replaceLines fun m l => if m = n then [] else l

end C4Lint.Text
