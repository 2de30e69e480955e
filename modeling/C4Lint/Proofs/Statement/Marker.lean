/-
# Comment markers among the tokens

A comment is found by going over the characters of a line and counting quotes, and the tokens of a
line are found by taking whole strings at once.  The two agree on what stands inside of a string.
Lexeme by lexeme, what stands before a comment is kept (`Statement.beforeComment_spell_append`), and
a comment begins exactly where the tokens say so, which is `Token.CommentAt`.  So without its
comment a line has the tokens before the first marker, none of them cut or changed.  The main
statement is `Statement.scan_stripComment`.
-/
import Mathlib.Data.Nat.Find
import C4Lint.Proofs.Statement.Comment
import C4Lint.Proofs.Token.First

namespace C4Lint

open Text (Blanks isBlank trim trimEnd)

/-! ### Where a lexeme ends -/

namespace Lexeme

variable {l : Lexeme} {t u w : Text}

/-- A lexeme that ends at a text ends at the front of the text as well. -/
lemma EndsAt.mono (h : l.EndsAt t) (hu : u <+: t) : l.EndsAt u := by
  have hhead : ∀ c ∈ u.head?, c ∈ t.head? := by
    obtain ⟨v, rfl⟩ := hu
    intro c hc
    rw [List.head?_append, Option.mem_def.1 hc]
    rfl
  cases l with
  | name a => exact fun c hc => h c (hhead c hc)
  | openString b =>
    obtain rfl : t = [] := h
    exact List.prefix_nil.1 hu
  | other c => exact fun hdash hc => h hdash (hhead '>' hc)
  | _ => trivial

/-- Blanks behind a text do not go on with a lexeme that ends there, unless it is an open string. -/
lemma EndsAt.append_blanks (h : l.EndsAt t) (hw : Blanks w) (hl : ∀ b, l ≠ openString b) :
    l.EndsAt (t ++ w) := by
  have hhead : ∀ c ∈ (t ++ w).head?, c ∈ t.head? ∨ isBlank c = true := by
    intro c hc
    cases t with
    | nil => exact Or.inr (hw c (List.mem_of_mem_head? hc))
    | cons d t => exact Or.inl hc
  cases l with
  | name a =>
    intro c hc
    rcases hhead c hc with hc | hblank
    · exact h c hc
    · exact Text.isNameChar_eq_false_of_isBlank hblank
  | openString b => exact absurd rfl (hl b)
  | other c =>
    intro hdash hc
    rcases hhead '>' hc with hc | hblank
    · exact h hdash hc
    · exact absurd hblank (by decide)
  | _ => trivial

end Lexeme

/-! ### What is kept of a line -/

namespace Statement

variable {c : Char} {t : Text}

/-- What holds neither quotes nor the signs of a comment is passed over. -/
lemma beforeComment_append {u : Text} (hu : ∀ c ∈ u, c ≠ '"' ∧ c ≠ '#' ∧ c ≠ '/') (t : Text) :
    beforeComment false (u ++ t) = u ++ beforeComment false t := by
  induction u with
  | nil => rfl
  | cons c u ih =>
    obtain ⟨hquote, hhash, hslash⟩ := hu c List.mem_cons_self
    rw [List.cons_append, beforeComment, if_neg hquote,
      if_neg (by simp [opensComment, hhash, hslash]), List.cons_append,
      ih fun d hd => hu d (List.mem_cons_of_mem _ hd)]

/-- The inside of a string is passed over whatever it holds. -/
lemma beforeComment_quoted {b : Text} (hb : '"' ∉ b) (t : Text) :
    beforeComment true (b ++ t) = b ++ beforeComment true t := by
  induction b with
  | nil => rfl
  | cons c b ih =>
    rw [List.mem_cons, not_or] at hb
    rw [List.cons_append, beforeComment, if_neg (Ne.symm hb.1), if_neg (by simp), ih hb.2,
      List.cons_append]

/-- A lexeme in which no comment begins is kept as it is written. -/
theorem beforeComment_spell_append {l : Lexeme} (hl : l.Valid)
    (hopen : ∀ b, l = .openString b → t = [])
    (hother : ∀ c, l = .other c → opensComment c t = false) :
    beforeComment false (l.spell ++ t) = l.spell ++ beforeComment false t := by
  have hquote : ∀ u : Text, beforeComment false ('"' :: u) = '"' :: beforeComment true u :=
    fun u => by rw [beforeComment, if_pos rfl, Bool.not_false]
  cases l with
  | name a =>
    refine beforeComment_append (fun c hc => ?_) t
    have hname := hl.2 c hc
    exact ⟨Text.ne_of_isNameChar hname (by decide), Text.ne_of_isNameChar hname (by decide),
      Text.ne_of_isNameChar hname (by decide)⟩
  | string b =>
    have hend : beforeComment true ('"' :: t) = '"' :: beforeComment false t := by
      rw [beforeComment, if_pos rfl, Bool.not_true]
    have hstring := hquote (b ++ '"' :: t)
    rw [beforeComment_quoted hl, hend] at hstring
    simpa [Lexeme.spell] using hstring
  | openString b =>
    obtain rfl := hopen b rfl
    have hstring := hquote (b ++ [])
    rw [beforeComment_quoted hl] at hstring
    exact hstring
  | other c =>
    have hnot := hother c rfl
    show beforeComment false (c :: t) = c :: beforeComment false t
    rw [beforeComment, if_neg hl.2.1, if_neg (by simp [hnot])]
  | _ => exact beforeComment_append (by simp [Lexeme.spell, Lexeme.text]) t

lemma beforeComment_cons_of_opensComment (h : opensComment c t = true) :
    beforeComment false (c :: t) = [] := by
  have hquote : c ≠ '"' := by
    rintro rfl
    exact absurd h (by simp [opensComment])
  rw [beforeComment, if_neg hquote, if_pos (by simp [h])]

lemma beforeComment_cons_of_isBlank (hc : isBlank c = true) (t : Text) :
    beforeComment false (c :: t) = c :: beforeComment false t := by
  have hne : ∀ d, isBlank d = false → c ≠ d := by
    rintro d hd rfl
    exact absurd hc (by simp [hd])
  exact beforeComment_append (u := [c])
    (by simp [hne '"' (by decide), hne '#' (by decide), hne '/' (by decide)]) t

/-- The first lexeme of a text is kept if no comment begins there. -/
lemma beforeComment_cons_of_not_opensComment (hc : isBlank c = false)
    (h : opensComment c t = false) :
    beforeComment false (c :: t)
      = (Lexeme.read c t).1.spell ++ beforeComment false (Lexeme.read c t).2 := by
  have hspell := Lexeme.spell_append_of_read c t
  rw [← hspell]
  refine beforeComment_spell_append (Lexeme.valid_read hc t) (fun b hb => ?_) fun d hd => ?_
  · have hends := Lexeme.endsAt_read c t
    rw [hb] at hends
    exact hends
  · -- the lexeme is the character itself, and the rest is what follows it
    rw [hd] at hspell
    obtain ⟨hdc, hrest⟩ : d = c ∧ (Lexeme.read c t).2 = t := List.cons.inj hspell
    rwa [hdc, hrest]

end Statement

/-! ### Markers -/

namespace Token

variable {c : Char} {t w : Text} {tok : Token} {ts : List Token} {spaced : Bool} {j : Nat}

/-- A comment begins at the token of the given index: a number sign, or a slash with another one
right behind it. -/
def CommentAt (ts : List Token) (j : Nat) : Prop :=
  ts[j]?.map Token.lexeme = some (.other '#') ∨
    ts[j]?.map Token.lexeme = some (.other '/') ∧ ts[j + 1]? = some ⟨.other '/', false⟩

instance (ts : List Token) (j : Nat) : Decidable (CommentAt ts j) :=
  inferInstanceAs (Decidable (_ ∨ _))

lemma CommentAt.lt_length (h : CommentAt ts j) : j < ts.length := by
  by_contra hle
  have hnone : ts[j]? = none := List.getElem?_eq_none (Nat.not_lt.1 hle)
  rw [CommentAt, hnone] at h
  rcases h with h | ⟨h, -⟩
  · cases h
  · cases h

/-- The signs of a comment are lexemes of their own. -/
lemma read_of_sign (hc : c = '#' ∨ c = '/') (t : Text) : Lexeme.read c t = (.other c, t) := by
  rcases hc with rfl | rfl
  · rfl
  · rfl

/-- A slash is read right behind another lexeme exactly where the text goes on with one. -/
lemma head?_scanAfter_slash :
    (scanAfter false t)[0]? = some ⟨.other '/', false⟩ ↔ t.head? = some '/' := by
  rw [← List.head?_eq_getElem?]
  constructor
  · intro h
    cases t with
    | nil => simp at h
    | cons d u =>
      have hblank : isBlank d = false := by
        have hspaced := spaced_of_mem_head?_scanAfter h
        simpa using hspaced
      rw [scanAfter_cons_of_not_isBlank hblank, List.head?_cons, Option.some.injEq,
        Token.mk.injEq] at h
      rw [List.head?_cons, Lexeme.eq_of_read_eq_other h.1]
  · intro h
    obtain ⟨u, rfl⟩ := List.head?_eq_some_iff.1 h
    rw [scanAfter_cons_of_not_isBlank (by decide), read_of_sign (Or.inr rfl), List.head?_cons]

/-- A comment begins at the first token exactly if one begins at its first character. -/
lemma commentAt_zero_iff (spaced : Bool) :
    CommentAt (⟨(Lexeme.read c t).1, spaced⟩ :: scanAfter false (Lexeme.read c t).2) 0 ↔
      Statement.opensComment c t = true := by
  have hsign : ∀ d, d = '#' ∨ d = '/' → ((Lexeme.read c t).1 = .other d ↔ c = d) := by
    intro d hd
    refine ⟨Lexeme.eq_of_read_eq_other, ?_⟩
    rintro rfl
    rw [read_of_sign hd]
  have hopens : Statement.opensComment c t = true ↔ c = '#' ∨ c = '/' ∧ t.head? = some '/' := by
    simp [Statement.opensComment]
  rw [hopens, ← hsign '#' (Or.inl rfl), ← hsign '/' (Or.inr rfl), CommentAt]
  simp only [List.getElem?_cons_zero, List.getElem?_cons_succ, Option.map_some, Option.some.injEq]
  refine or_congr_right (and_congr_right fun h => ?_)
  obtain rfl := Lexeme.eq_of_read_eq_other h
  rw [read_of_sign (Or.inr rfl), head?_scanAfter_slash]

/-! ### Cutting at a marker -/

/-- A text without markers among its tokens has no comment. -/
theorem beforeComment_eq_self_of_not_commentAt (h : ∀ j, ¬CommentAt (scanAfter spaced t) j) :
    Statement.beforeComment false t = t := by
  induction spaced, t using scanAfter.induct with
  | case1 spaced => rfl
  | case2 spaced c t hc ih =>
    rw [scanAfter_cons_of_isBlank hc] at h
    rw [Statement.beforeComment_cons_of_isBlank hc, ih h]
  | case3 spaced c t hc ih =>
    have hblank : isBlank c = false := by simpa using hc
    rw [scanAfter_cons_of_not_isBlank hblank] at h
    have hnot : Statement.opensComment c t = false := by
      rw [Bool.eq_false_iff]
      exact fun hopens => h 0 ((commentAt_zero_iff spaced).2 hopens)
    rw [Statement.beforeComment_cons_of_not_opensComment hblank hnot, ih fun j hj => h (j + 1) hj,
      Lexeme.spell_append_of_read]

/-- What stands before a comment has the tokens before the first marker.  In the induction each
token before the marker is read back, since what follows is a front of what followed before. -/
theorem scanAfter_beforeComment (hj : CommentAt (scanAfter spaced t) j)
    (hleast : ∀ i < j, ¬CommentAt (scanAfter spaced t) i) :
    scanAfter spaced (Statement.beforeComment false t) = (scanAfter spaced t).take j := by
  induction spaced, t using scanAfter.induct generalizing j with
  | case1 spaced => simp [CommentAt] at hj
  | case2 spaced c t hc ih =>
    rw [scanAfter_cons_of_isBlank hc] at hj hleast ⊢
    rw [Statement.beforeComment_cons_of_isBlank hc, scanAfter_cons_of_isBlank hc, ih hj hleast]
  | case3 spaced c t hc ih =>
    have hblank : isBlank c = false := by simpa using hc
    rw [scanAfter_cons_of_not_isBlank hblank] at hj hleast ⊢
    cases j with
    | zero =>
      rw [Statement.beforeComment_cons_of_opensComment ((commentAt_zero_iff spaced).1 hj),
        scanAfter_nil, List.take_zero]
    | succ j =>
      have hnot : Statement.opensComment c t = false := by
        rw [Bool.eq_false_iff]
        exact fun hopens => hleast 0 (Nat.succ_pos j) ((commentAt_zero_iff spaced).2 hopens)
      have hends := (Lexeme.endsAt_read c t).mono
        (Statement.beforeComment_prefix_self false (Lexeme.read c t).2)
      rw [Statement.beforeComment_cons_of_not_opensComment hblank hnot,
        scanAfter_spell_append (Lexeme.valid_read hblank t) hends, List.take_succ_cons,
        ih hj fun i hi => hleast (i + 1) (Nat.succ_lt_succ hi)]

/-! ### Blanks at the end -/

/-- Only the last token can be an open string. -/
lemma ne_openString_of_mem_take (hsep : Separated ts) (hj : j < ts.length) (h : tok ∈ ts.take j) :
    ∀ b, tok.lexeme ≠ .openString b := by
  obtain ⟨i, hi, rfl⟩ := List.mem_take_iff_getElem.1 h
  have hfollows := List.isChain_iff_getElem.1 hsep i (by omega)
  exact hfollows.1

/-- Blanks behind an open string are taken into it. -/
lemma scanAfter_openString_append (hw : Blanks w) {b : Text} (hb : '"' ∉ b) (spaced : Bool) :
    scanAfter spaced ((Lexeme.openString b).spell ++ w) = [⟨.openString (b ++ w), spaced⟩] := by
  have hvalid : (Lexeme.openString (b ++ w)).Valid := by
    intro hmem
    rcases List.mem_append.1 hmem with hmem | hmem
    · exact hb hmem
    · exact absurd (hw '"' hmem) (by decide)
  have hends : (Lexeme.openString (b ++ w)).EndsAt [] := rfl
  have hscan := scanAfter_spell_append hvalid hends spaced
  rwa [scanAfter_nil, List.append_nil] at hscan

/-- Blanks at the end of a text leave no trace among its tokens, unless they are in an open
string. -/
theorem scanAfter_append_blanks (hw : Blanks w)
    (h : ∀ tok ∈ scanAfter spaced (t ++ w), ∀ b, tok.lexeme ≠ .openString b) :
    scanAfter spaced (t ++ w) = scanAfter spaced t := by
  induction spaced, t using scanAfter.induct with
  | case1 spaced =>
    have hblanks := scanAfter_blanks_append hw spaced []
    rw [List.append_nil] at hblanks
    rw [List.nil_append, hblanks, scanAfter_nil, scanAfter_nil]
  | case2 spaced c t hc ih =>
    rw [List.cons_append, scanAfter_cons_of_isBlank hc] at h ⊢
    rw [scanAfter_cons_of_isBlank hc, ih h]
  | case3 spaced c t hc ih =>
    have hvalid := Lexeme.valid_read (Bool.eq_false_iff.2 hc) t
    have hends := Lexeme.endsAt_read c t
    rw [← Lexeme.spell_append_of_read c t, List.append_assoc] at h ⊢
    have hclosed : ∀ b, (Lexeme.read c t).1 ≠ .openString b := by
      intro b hb
      rw [hb] at hvalid hends
      have hrest : (Lexeme.read c t).2 = [] := hends
      rw [hb, hrest, List.nil_append, scanAfter_openString_append hw hvalid] at h
      exact h _ List.mem_cons_self _ rfl
    rw [scanAfter_spell_append hvalid (hends.append_blanks hw hclosed)] at h ⊢
    rw [scanAfter_spell_append hvalid hends,
      ih fun tok htok => h tok (List.mem_cons_of_mem _ htok)]

lemma scan_trimEnd (h : ∀ tok ∈ scan t, ∀ b, tok.lexeme ≠ .openString b) :
    scan (trimEnd t) = scan t := by
  have ht := Text.trimEnd_append t
  have hblanks : Blanks (t.reverse.takeWhile isBlank).reverse :=
    fun c hc => Text.blanks_takeWhile _ c (List.mem_reverse.1 hc)
  rw [← ht] at h
  conv_rhs => rw [← ht]
  exact (scanAfter_append_blanks hblanks h).symm

end Token

/-! ### Lines without their comments -/

namespace Statement

open Token (CommentAt scan)

/-- Without its comment, a line has the tokens before the first marker. -/
theorem scan_stripComment_of_commentAt {l : Text} {j : Nat} (hj : CommentAt (scan (trim l)) j)
    (hleast : ∀ i < j, ¬CommentAt (scan (trim l)) i) :
    scan (stripComment l) = (scan (trim l)).take j := by
  have hscan : scan (beforeComment false (trim l)) = (scan (trim l)).take j :=
    Token.scanAfter_beforeComment hj hleast
  rw [stripComment, Token.scan_trimEnd, hscan]
  rw [hscan]
  intro tok htok
  exact Token.ne_openString_of_mem_take (Token.separated_scan _) hj.lt_length htok

/-- A line without markers is only trimmed. -/
theorem stripComment_eq_trim_of_not_commentAt {l : Text} (h : ∀ j, ¬CommentAt (scan (trim l)) j) :
    stripComment l = trim l := by
  have htrim : trimEnd (trim l) = trim l := Text.trimEnd_trimEnd _
  rw [stripComment, Token.beforeComment_eq_self_of_not_commentAt h, htrim]

/-- Dropping a comment and reading tokens agree on what stands in a string.  If a comment begins
among the tokens of a trimmed line, then without its comment the line has the tokens before the
first marker, as they were.  A line is only trimmed exactly if none begins there: a marker in a
string, be it closed or not, drops nothing, and any other does.  In any case the tokens left are the
first ones of the line. -/
theorem scan_stripComment (l : Text) :
    (∀ j, CommentAt (scan (trim l)) j → (∀ i < j, ¬CommentAt (scan (trim l)) i) →
      scan (stripComment l) = (scan (trim l)).take j) ∧
    (stripComment l = trim l ↔ ∀ j, ¬CommentAt (scan (trim l)) j) ∧
    scan (stripComment l) <+: scan (trim l) := by
  by_cases h : ∃ j, CommentAt (scan (trim l)) j
  · have hscan := scan_stripComment_of_commentAt (Nat.find_spec h) fun i hi => Nat.find_min h hi
    refine ⟨fun j hj hleast => scan_stripComment_of_commentAt hj hleast, ?_, ?_⟩
    · refine iff_of_false (fun heq => ?_) (not_forall_not.2 h)
      -- fewer tokens are left than there were
      have hlength := congrArg List.length hscan
      have hlt := (Nat.find_spec h).lt_length
      rw [heq, List.length_take] at hlength
      omega
    · rw [hscan]
      exact List.take_prefix _ _
  · have hnone := not_exists.1 h
    have htrim := stripComment_eq_trim_of_not_commentAt hnone
    refine ⟨fun j hj => absurd hj (hnone j), iff_of_true htrim hnone, ?_⟩
    exact htrim.symm ▸ List.prefix_rfl

/-- Markers in a string, a single slash, a marker right behind a name, and one more behind the
first. -/
theorem scan_stripComment_after_string :
    let l := " a / \"// #\" b//c #".toList
    CommentAt (scan (trim l)) 4 ∧ (∀ i < 4, ¬CommentAt (scan (trim l)) i) ∧
      scan (stripComment l) = (scan (trim l)).take 4 ∧ stripComment l = "a / \"// #\" b".toList ∧
      (∀ j, ¬CommentAt (scan (trim " a \"b # c".toList)) j) ∧
      stripComment " a \"b # c".toList = "a \"b # c".toList := by
  intro l
  have hj : CommentAt (scan (trim l)) 4 := by decide +kernel
  have hleast : ∀ i < 4, ¬CommentAt (scan (trim l)) i := by decide +kernel
  have hopen : stripComment " a \"b # c".toList = trim " a \"b # c".toList := by decide +kernel
  exact ⟨hj, hleast, (scan_stripComment l).1 4 hj hleast, by decide +kernel,
    (scan_stripComment _).2.1.1 hopen, by decide +kernel⟩

end Statement

end C4Lint
