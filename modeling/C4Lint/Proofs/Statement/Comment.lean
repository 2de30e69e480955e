/-
# Dropping comments once and for all

What stands before a comment is a front of the line, and a front of a text without comments has none
either: where a slash at its end is followed by nothing, it was not followed by another slash before
(`beforeComment_eq_self_of_prefix`).  So dropping a comment and trimming what is left, which can be
done again and again, changes nothing the second time (`stripComment_stripComment`), and a document
from which all comments have been dropped has the same statements, save for their sources
(`all_withoutComments`).  So have two documents that differ in what their comments say
(`map_withoutComment_all`).  A statement stands in its document as it is written
(`exists_append_of_mem_all`).
-/
import C4Lint.Proofs.Statement.Lines

namespace C4Lint

open Text (isBlank trim trimStart trimEnd)

namespace Statement

variable {c : Char} {l t u : Text} {quoted : Bool}

/-! ### The text before a comment -/

lemma opensComment_of_prefix (hu : u <+: t) (h : opensComment c u = true) :
    opensComment c t = true := by
  rw [opensComment, Bool.or_eq_true, Bool.and_eq_true, beq_iff_eq, beq_iff_eq, beq_iff_eq] at h ⊢
  refine h.imp_right fun ⟨hc, hslash⟩ => ⟨hc, ?_⟩
  obtain ⟨v, rfl⟩ := hu
  rw [List.head?_append, hslash, Option.some_or]

lemma beforeComment_prefix_self (quoted : Bool) (t : Text) : beforeComment quoted t <+: t := by
  induction t generalizing quoted with
  | nil => exact List.prefix_rfl
  | cons c t ih =>
    rw [beforeComment]
    split_ifs
    · exact List.cons_prefix_cons.2 ⟨rfl, ih (!quoted)⟩
    · exact List.nil_prefix
    · exact List.cons_prefix_cons.2 ⟨rfl, ih quoted⟩

/-- The front of a text without comments has none. -/
theorem beforeComment_eq_self_of_prefix (hu : u <+: t) (ht : beforeComment quoted t = t) :
    beforeComment quoted u = u := by
  induction u generalizing t quoted with
  | nil => rfl
  | cons c u ih =>
    obtain ⟨v, rfl⟩ := hu
    have hrest : u <+: u ++ v := List.prefix_append u v
    rw [List.cons_append, beforeComment] at ht
    rw [beforeComment]
    split_ifs at ht with hquote hopens
    · rw [if_pos hquote, ih hrest (List.cons.inj ht).2]
    · have hnot : ¬(!quoted && opensComment c u) = true := by
        rw [Bool.and_eq_true]
        rintro ⟨hout, hc⟩
        exact hopens (Bool.and_eq_true_iff.2 ⟨hout, opensComment_of_prefix hrest hc⟩)
      rw [if_neg hquote, if_neg hnot, ih hrest (List.cons.inj ht).2]

/-- What stands before a comment holds no further one. -/
theorem beforeComment_beforeComment (quoted : Bool) (t : Text) :
    beforeComment quoted (beforeComment quoted t) = beforeComment quoted t := by
  induction t generalizing quoted with
  | nil => rfl
  | cons c t ih =>
    rw [beforeComment]
    split_ifs with hquote hopens
    · rw [beforeComment, if_pos hquote, ih]
    · rfl
    · -- what follows `c` is a front of what followed it before
      have hnot : ¬(!quoted && opensComment c (beforeComment quoted t)) = true := by
        rw [Bool.and_eq_true]
        rintro ⟨hout, hc⟩
        have hfront := beforeComment_prefix_self quoted t
        exact hopens (Bool.and_eq_true_iff.2 ⟨hout, opensComment_of_prefix hfront hc⟩)
      rw [beforeComment, if_neg hquote, if_neg hnot, ih]

/-! ### The line without its comment -/

/-- What is left of a line is the front of what stands before the comment on the trimmed line. -/
lemma stripComment_prefix_trim (l : Text) : stripComment l <+: trim l :=
  (Text.trimEnd_prefix_self _).trans (beforeComment_prefix_self false _)

lemma trim_stripComment (l : Text) : trim (stripComment l) = stripComment l := by
  have hstart : ∀ c ∈ (stripComment l).head?, isBlank c = false := by
    intro c hc
    obtain ⟨v, hv⟩ := stripComment_prefix_trim l
    apply Text.isBlank_of_mem_head?_trim (t := l)
    rw [← hv, List.head?_append, Option.mem_def.1 hc]
    rfl
  rw [trim, trimStart, Text.dropWhile_eq_self hstart, stripComment, Text.trimEnd_trimEnd]

/-- Dropping the comment of a line a second time changes nothing. -/
theorem stripComment_stripComment (l : Text) : stripComment (stripComment l) = stripComment l := by
  have hfree : beforeComment false (stripComment l) = stripComment l :=
    beforeComment_eq_self_of_prefix (Text.trimEnd_prefix_self _)
      (beforeComment_beforeComment false (trim l))
  have hend : trimEnd (stripComment l) = stripComment l := by
    rw [stripComment, Text.trimEnd_trimEnd]
  calc stripComment (stripComment l)
      = trimEnd (beforeComment false (trim (stripComment l))) := rfl
    _ = stripComment l := by rw [trim_stripComment, hfree, hend]

/-- A single slash is no comment, and it does not become one where it comes to stand at the end. -/
example :
    stripComment " a = \"#\" / # // b ".toList = "a = \"#\" /".toList ∧
      stripComment "a = \"#\" /".toList = "a = \"#\" /".toList := by
  decide +kernel

lemma newline_not_mem_stripComment (h : '\n' ∉ l) : '\n' ∉ stripComment l := by
  obtain ⟨u, v, hl, -, -⟩ := Text.trim_eq l
  intro hmem
  apply h
  rw [hl]
  simp [(stripComment_prefix_trim l).subset hmem]

/-! ### The statement in its document -/

/-- A statement is what is left of something between two line feeds. -/
lemma exists_stripComment_of_mem_all {content : Text} {s : Statement} (h : s ∈ all content) :
    ∃ l ∈ content.splitOn '\n', s.text = stripComment l := by
  rw [all_eq_ofLines, mem_ofLines_iff] at h
  obtain ⟨i, l, hl, hs⟩ := h
  obtain ⟨-, rfl⟩ := ofLine?_eq_some_iff.1 hs
  exact ⟨l, List.mem_of_getElem? hl, rfl⟩

/-- A statement stands on one line. -/
lemma newline_not_mem_of_mem_all {content : Text} {s : Statement} (h : s ∈ all content) :
    '\n' ∉ s.text := by
  obtain ⟨l, hl, htext⟩ := exists_stripComment_of_mem_all h
  rw [htext]
  exact newline_not_mem_stripComment (Text.newline_not_mem_of_mem_splitOn hl)

/-- A statement stands in its document as it is written. -/
lemma exists_append_of_mem_all {content : Text} {s : Statement} (h : s ∈ all content) :
    ∃ u v, content = u ++ s.text ++ v := by
  obtain ⟨l, hl, htext⟩ := exists_stripComment_of_mem_all h
  obtain ⟨u, v, rfl⟩ := Text.exists_append_of_mem_splitOn hl
  obtain ⟨x, y, htrim, -, -⟩ := Text.trim_eq l
  obtain ⟨w, hstrip⟩ := stripComment_prefix_trim l
  refine ⟨u ++ x, w ++ y ++ v, ?_⟩
  conv_lhs => rw [htrim, ← hstrip, ← htext]
  simp only [List.append_assoc]

/-! ### The document without its comments -/

/-- The statement with its comment dropped from the source as well. -/
def withoutComment (s : Statement) : Statement := { s with source := stripComment s.source }

/-- The document in which every line is replaced by what is left of it without its comment. -/
def withoutComments (content : Text) : Text :=
  Text.replaceLines (fun _ l => stripComment l) content

lemma ofLine?_stripComment (n : Nat) (l : Text) :
    ofLine? n (stripComment l) = (ofLine? n l).map withoutComment := by
  rw [ofLine?, ofLine?, stripComment_stripComment, trim_stripComment]
  cases h : stripComment l with
  | nil => rfl
  | cons c t =>
    rw [Option.map_some, withoutComment]
    simp only [stripComment_trim, h]

/-- Without its comments, a document has the same statements on the same lines. -/
theorem all_withoutComments (content : Text) :
    all (withoutComments content) = (all content).map withoutComment := by
  have hline : ∀ n l, ofLine? n (stripComment l) = (ofLine? n l).bind (some ∘ withoutComment) := by
    intro n l
    rw [ofLine?_stripComment, Option.map_eq_bind]
  rw [withoutComments, all_replaceLines (fun _ _ => newline_not_mem_stripComment) hline,
    List.filterMap_eq_map]

lemma ofLines_map_stripComment (n : Nat) (ls : List Text) :
    ofLines n (ls.map stripComment) = (ofLines n ls).map withoutComment := by
  induction ls generalizing n with
  | nil => rfl
  | cons l ls ih =>
    rw [List.map_cons, ofLines, ofLines, ofLine?_stripComment, ih, List.map_append,
      Option.toList_map]

/-- Documents whose lines are the same without comments have the same statements, save for what
their sources say in comments. -/
theorem map_withoutComment_all {a b : Text}
    (h : (Text.lines a).map stripComment = (Text.lines b).map stripComment) :
    (all a).map withoutComment = (all b).map withoutComment := by
  rw [all, all, ← ofLines_map_stripComment, h, ofLines_map_stripComment]

end Statement

end C4Lint
