/-
# Where the braces of a document stand

The outline checks count the braces of the whole text, and nested sections are followed by the
braces among the tokens of each statement.  Between the two stand the braces in strings and those in
comments, and no others: a text is its lines but for line ends, a line is its statement and what was
dropped around it (`Statement.dropped`), and a statement is its tokens but for blanks.  So every
brace is counted in exactly one place, which is `Statement.braces_accounted`.
-/
import C4Lint.Outline
import C4Lint.Proofs.Region.Nested
import C4Lint.Proofs.Statement.Comment
import C4Lint.Proofs.Token.Lexeme

namespace C4Lint

open Text (isBlank trim trimStart)

/-! ### Adding up counts -/

namespace BraceCount

attribute [ext] BraceCount

instance : Add BraceCount := ⟨fun a b => ⟨a.opening + b.opening, a.closing + b.closing⟩⟩

@[simp] lemma opening_add (a b : BraceCount) : (a + b).opening = a.opening + b.opening := rfl

@[simp] lemma closing_add (a b : BraceCount) : (a + b).closing = a.closing + b.closing := rfl

instance : @Std.Associative BraceCount (· + ·) :=
  ⟨fun _ _ _ => BraceCount.ext (Nat.add_assoc ..) (Nat.add_assoc ..)⟩

instance : @Std.Commutative BraceCount (· + ·) :=
  ⟨fun _ _ => BraceCount.ext (Nat.add_comm ..) (Nat.add_comm ..)⟩

protected lemma zero_add (b : BraceCount) : ⟨0, 0⟩ + b = b :=
  BraceCount.ext (Nat.zero_add _) (Nat.zero_add _)

/-- The sum of some counts. -/
def total : List BraceCount → BraceCount
  | [] => ⟨0, 0⟩
  | b :: bs => b + total bs

@[simp] lemma total_nil : total [] = ⟨0, 0⟩ := rfl

@[simp] lemma total_cons (b : BraceCount) (bs : List BraceCount) :
    total (b :: bs) = b + total bs := rfl

lemma total_map_add {α : Type} (f g : α → BraceCount) (xs : List α) :
    total (xs.map fun x => f x + g x) = total (xs.map f) + total (xs.map g) := by
  induction xs with
  | nil => rfl
  | cons x xs ih =>
    simp only [List.map_cons, total_cons, ih]
    ac_rfl

/-- Nothing is added exactly if none of the counts has a brace. -/
lemma total_eq_zero_iff {bs : List BraceCount} : total bs = ⟨0, 0⟩ ↔ ∀ b ∈ bs, b = ⟨0, 0⟩ := by
  induction bs with
  | nil => simp
  | cons b bs ih =>
    rw [List.forall_mem_cons, ← ih, total_cons]
    simp only [BraceCount.ext_iff, opening_add, closing_add]
    omega

end BraceCount

open BraceCount (total)

/-! ### The braces of a text -/

namespace Outline

lemma braces_append (t u : Text) : braces (t ++ u) = braces t + braces u := by
  ext
  · exact List.count_append
  · exact List.count_append

lemma braces_flatten (ls : List Text) : braces ls.flatten = total (ls.map braces) := by
  induction ls with
  | nil => rfl
  | cons l ls ih => rw [List.flatten_cons, braces_append, ih, List.map_cons, BraceCount.total_cons]

lemma braces_eq_zero_iff {t : Text} : braces t = ⟨0, 0⟩ ↔ '{' ∉ t ∧ '}' ∉ t := by
  simp [braces, List.count_eq_zero]

lemma braces_cons_of_isBlank {c : Char} (hc : isBlank c = true) (t : Text) :
    braces (c :: t) = braces t := by
  have hne : ∀ d, isBlank d = false → c ≠ d := by
    rintro d hd rfl
    exact absurd hc (by simp [hd])
  simp [braces, hne '{' (by decide), hne '}' (by decide)]

end Outline

/-! ### Lines -/

namespace Text

lemma count_dropReturn {c : Char} (hc : c ≠ '\r') (l : Text) : (dropReturn l).count c = l.count c := by
  rw [dropReturn]
  split_ifs with h
  · obtain ⟨u, rfl⟩ := List.getLast?_eq_some_iff.1 h
    rw [List.dropLast_concat, List.count_append, List.count_singleton]
    simp [hc.symm]
  · rfl

lemma count_linesOfPieces {c : Char} (hc : c ≠ '\r') (ls : List Text) :
    (linesOfPieces ls).flatten.count c = ls.flatten.count c := by
  induction ls with
  | nil => rfl
  | cons l ls ih =>
    cases ls with
    | nil =>
      rw [linesOfPieces]
      split_ifs with hl
      · rw [List.isEmpty_iff.1 hl]
        rfl
      · rfl
    | cons m ms =>
      rw [linesOfPieces, List.flatten_cons, List.flatten_cons, List.count_append,
        List.count_append, count_dropReturn hc, ih]

/-- Between the lines of a text stand line ends and nothing else. -/
theorem count_lines {c : Char} (hfeed : c ≠ '\n') (hreturn : c ≠ '\r') (t : Text) :
    (lines t).flatten.count c = t.count c := by
  rw [lines, count_linesOfPieces hreturn]
  induction t using lines_induction with
  | last l hl => simp [List.splitOn_eq_singleton hl]
  | cons l u hl ih =>
    rw [List.splitOn_append_cons_self_of_not_mem hl, List.flatten_cons, List.count_append, ih,
      List.count_append, List.count_cons_of_ne hfeed.symm]

end Text

lemma Outline.braces_eq_total_lines (content : Text) :
    braces content = total ((Text.lines content).map braces) := by
  rw [← braces_flatten]
  ext
  · exact (Text.count_lines (by decide) (by decide) content).symm
  · exact (Text.count_lines (by decide) (by decide) content).symm

/-! ### Tokens -/

/-- What stands in a string, be it closed or not, and nothing for all other lexemes. -/
def Lexeme.inside : Lexeme → Text
  | string b => b
  | openString b => b
  | _ => []

lemma Lexeme.braces_spell {l : Lexeme} (hl : l.Valid) (spaced : Bool) :
    Outline.braces l.spell = Token.braces [⟨l, spaced⟩] + Outline.braces l.inside := by
  have hplain : ∀ {t : Text}, '{' ∉ t → '}' ∉ t → Outline.braces t = ⟨0, 0⟩ :=
    fun hopen hclose => Outline.braces_eq_zero_iff.2 ⟨hopen, hclose⟩
  cases l with
  | name t =>
    have hname : ∀ c, Text.isNameChar c = false → c ∉ t := by
      intro c hc hmem
      exact absurd (hl.2 c hmem) (by simp [hc])
    exact hplain (hname '{' (by decide)) (hname '}' (by decide))
  | string b =>
    ext
    · simp [Outline.braces, Token.braces, spell, inside]
    · simp [Outline.braces, Token.braces, spell, inside]
  | openString b =>
    ext
    · simp [Outline.braces, Token.braces, spell, inside]
    · simp [Outline.braces, Token.braces, spell, inside]
  | other c =>
    obtain ⟨-, -, -, hopen, hclose, -⟩ := hl
    exact hplain (by simpa [spell, text] using hopen.symm) (by simpa [spell, text] using hclose.symm)
  | _ => rfl

lemma Token.braces_append (ts us : List Token) : braces (ts ++ us) = braces ts + braces us :=
  BraceCount.ext opening_braces_append closing_braces_append

/-- The braces of a text are those among its tokens and those in its strings.  In the induction each
token takes its own braces, and blanks have none. -/
theorem Token.braces_scanAfter (spaced : Bool) (t : Text) :
    Outline.braces t = braces (scanAfter spaced t)
      + Outline.braces ((scanAfter spaced t).flatMap fun tok => tok.lexeme.inside) := by
  induction spaced, t using scanAfter.induct with
  | case1 spaced => rw [scanAfter_nil]; rfl
  | case2 spaced c t hc ih =>
    rw [Outline.braces_cons_of_isBlank hc, scanAfter_cons_of_isBlank hc, ih]
  | case3 spaced c t hc ih =>
    have hblank : isBlank c = false := by simpa using hc
    have htok := Lexeme.braces_spell (Lexeme.valid_read hblank t) spaced
    rw [scanAfter_cons_of_not_isBlank hblank, List.flatMap_cons, Outline.braces_append]
    conv_lhs => rw [← Lexeme.spell_append_of_read c t, Outline.braces_append, htok, ih]
    have hcons : braces (⟨(Lexeme.read c t).1, spaced⟩ :: scanAfter false (Lexeme.read c t).2)
        = braces [⟨(Lexeme.read c t).1, spaced⟩] + braces (scanAfter false (Lexeme.read c t).2) :=
      braces_append [_] _
    rw [hcons]
    ac_rfl

/-! ### Statements -/

namespace Statement

/-- What is dropped from a line: the blanks before its statement, and its comment with the blanks
around that. -/
def dropped (l : Text) : Text :=
  l.takeWhile isBlank ++ (trimStart l).drop (stripComment l).length

/-- What stands in the strings of a statement. -/
def strings (s : Statement) : Text := (Token.scan s.text).flatMap fun tok => tok.lexeme.inside

/-- The braces among the tokens of a statement. -/
def braces (s : Statement) : BraceCount := Token.braces (Token.scan s.text)

/-- A line is what is left of it, and what is dropped before and behind that. -/
lemma takeWhile_append_stripComment_append (l : Text) :
    l.takeWhile isBlank ++ (stripComment l ++ (trimStart l).drop (stripComment l).length) = l := by
  have hfront : stripComment l <+: trimStart l :=
    (stripComment_prefix_trim l).trans (Text.trimEnd_prefix_self _)
  rw [List.prefix_append_drop hfront |>.symm, Text.takeWhile_append_trimStart]

lemma braces_line (l : Text) :
    Outline.braces l = Outline.braces (stripComment l) + Outline.braces (dropped l) := by
  conv_lhs => rw [← takeWhile_append_stripComment_append l]
  rw [dropped, Outline.braces_append, Outline.braces_append, Outline.braces_append]
  ac_rfl

/-- Lines without a statement have no braces but in what is dropped. -/
lemma total_ofLines (n : Nat) (ls : List Text) :
    total ((ofLines n ls).map fun s => Outline.braces s.text)
      = total (ls.map fun l => Outline.braces (stripComment l)) := by
  induction ls generalizing n with
  | nil => rfl
  | cons l ls ih =>
    rw [ofLines, List.map_append, List.map_cons, BraceCount.total_cons, ← ih (n + 1), ofLine?]
    cases stripComment l with
    | nil => exact (BraceCount.zero_add _).symm
    | cons c t => rfl

/-- The braces of a document are those of its statements, those in the strings of its statements and
those in what is dropped from its lines. -/
lemma braces_eq_total (content : Text) :
    Outline.braces content
      = total ((all content).map braces)
        + total ((all content).map fun s => Outline.braces s.strings)
        + total ((Text.lines content).map fun l => Outline.braces (dropped l)) := by
  have hstatement : ∀ s : Statement, Outline.braces s.text = s.braces + Outline.braces s.strings :=
    fun s => Token.braces_scanAfter false s.text
  calc Outline.braces content
      = total ((Text.lines content).map Outline.braces) := Outline.braces_eq_total_lines content
    _ = total ((Text.lines content).map fun l => Outline.braces (stripComment l))
          + total ((Text.lines content).map fun l => Outline.braces (dropped l)) := by
        rw [← BraceCount.total_map_add, List.map_congr_left fun l _ => braces_line l]
    _ = total ((all content).map fun s => Outline.braces s.text)
          + total ((Text.lines content).map fun l => Outline.braces (dropped l)) := by
        rw [all, total_ofLines]
    _ = _ := by
        rw [← BraceCount.total_map_add, List.map_congr_left fun s _ => hstatement s]

end Statement

/-! ### The depth of nested sections -/

namespace Tracker

/-- The depth counts the braces of every statement, of those too that open a section. -/
lemma depth_advance_nested (k : Tracker) (t : Text) :
    (advance .nested k t).depth
      = k.depth + (Token.braces (Token.scan t)).opening - (Token.braces (Token.scan t)).closing := by
  cases h : Region.opened? t with
  | none => rw [advance, advanceNested, h]
  | some r =>
    have hone : Token.braces (Token.scan t) = ⟨1, 0⟩ := by
      obtain ⟨hr, rfl⟩ := Region.opened?_eq_some_iff.1 h
      cases r with
      | outside => exact absurd rfl hr
      | model => decide +kernel
      | views => decide +kernel
    rw [advance_nested_of_opened? h, hone]
    rfl

theorem depth_after_nested (k : Tracker) (ss : List Statement) :
    (after .nested k (ss.map Statement.text)).depth
      = (ss.map Statement.braces).foldl (fun d b => d + b.opening - b.closing) k.depth := by
  induction ss generalizing k with
  | nil => rfl
  | cons s ss ih =>
    rw [List.map_cons, after_cons, ih, depth_advance_nested, List.map_cons, List.foldl_cons]
    rfl

end Tracker

/-- Every brace of a document is counted in one place: among the tokens of a statement, in a string
of a statement, or in what is dropped from a line.  So the outline checks never count fewer braces
than there are among the tokens, and equally many exactly if no brace stands in a string or is
dropped.  The depth of nested sections goes by the braces among the tokens and by no others. -/
theorem Statement.braces_accounted (content : Text) :
    Outline.braces content
      = total ((all content).map braces)
        + total ((all content).map fun s => Outline.braces s.strings)
        + total ((Text.lines content).map fun l => Outline.braces (dropped l)) ∧
    (total ((all content).map braces)).opening ≤ (Outline.braces content).opening ∧
    (total ((all content).map braces)).closing ≤ (Outline.braces content).closing ∧
    (Outline.braces content = total ((all content).map braces) ↔
      (∀ s ∈ all content, '{' ∉ s.strings ∧ '}' ∉ s.strings) ∧
      ∀ l ∈ Text.lines content, '{' ∉ dropped l ∧ '}' ∉ dropped l) ∧
    ∀ n, (Tracker.after .nested {} (((all content).take n).map Statement.text)).depth
      = (((all content).take n).map braces).foldl (fun d b => d + b.opening - b.closing) 0 := by
  have htotal := braces_eq_total content
  have hopening := congrArg BraceCount.opening htotal
  have hclosing := congrArg BraceCount.closing htotal
  simp only [BraceCount.opening_add, BraceCount.closing_add] at hopening hclosing
  refine ⟨htotal, by omega, by omega, ?_, fun n => Tracker.depth_after_nested {} _⟩
  have hstrings : total ((all content).map fun s => Outline.braces s.strings) = ⟨0, 0⟩ ↔
      ∀ s ∈ all content, '{' ∉ s.strings ∧ '}' ∉ s.strings := by
    simp only [BraceCount.total_eq_zero_iff, List.forall_mem_map, Outline.braces_eq_zero_iff]
  have hdropped : total ((Text.lines content).map fun l => Outline.braces (dropped l)) = ⟨0, 0⟩ ↔
      ∀ l ∈ Text.lines content, '{' ∉ dropped l ∧ '}' ∉ dropped l := by
    simp only [BraceCount.total_eq_zero_iff, List.forall_mem_map, Outline.braces_eq_zero_iff]
  rw [← hstrings, ← hdropped]
  simp only [BraceCount.ext_iff]
  omega

end C4Lint
