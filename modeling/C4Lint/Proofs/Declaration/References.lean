/-
# The grammars of references, character by character

A relationship refers to two elements by their names, and a view to one.  This file says without
tokens what is read as a relationship (`Declaration.relationship?_scan_eq_some_iff`) and as a view
(`Declaration.view?_scan_eq_some_iff`).  A name goes on as far as it can.  Of the name in a view
only the first word counts, so the text is cut behind that word, and what follows it may be the rest
of a dotted name: `Text.exists_name_of_isWord` finds the name again.
-/
import C4Lint.Proofs.Declaration.Characters
import C4Lint.Proofs.Text.Trim

namespace C4Lint

open Text (Blanks isNameChar isWordChar)

namespace Text

variable {a e r rest : Text}

/-- What follows the first word of a name, be it in the name or behind it, does not go on with the
word. -/
lemma isWordChar_of_mem_head?_dropWhile (hends : (Lexeme.name a).EndsAt rest) :
    ∀ c ∈ (a.dropWhile (· != '.') ++ rest).head?, isWordChar c = false := by
  intro c hc
  cases hdrop : a.dropWhile (· != '.') with
  | nil =>
    rw [hdrop, List.nil_append] at hc
    have hname := hends c hc
    rw [isNameChar, Bool.or_eq_false_iff] at hname
    exact hname.1
  | cons d u =>
    have hdot := (dropWhile_eq_cons_iff.1 hdrop).1
    obtain rfl : d = '.' := by simpa using hdot
    rw [hdrop, List.cons_append, List.head?_cons, Option.mem_some] at hc
    subst hc
    decide

/-- Name characters behind a word begin with a dot. -/
lemma eq_dot_of_mem_head?_takeWhile (hr : ∀ c ∈ r.head?, isWordChar c = false) :
    ∀ c ∈ (r.takeWhile isNameChar).head?, c = '.' := by
  intro c hc
  rw [List.head?_takeWhile, Option.mem_def, Option.filter_eq_some_iff] at hc
  obtain ⟨hfirst, hname⟩ := hc
  simpa [isNameChar, hr c hfirst] using hname

/-- A word that does not go on is the first word of a name that goes on as far as it can. -/
lemma exists_name_of_isWord (he : IsWord e) (hr : ∀ c ∈ r.head?, isWordChar c = false) :
    ∃ a rest, IsName a ∧ (∃ c ∈ a.head?, isWordChar c = true) ∧ (Lexeme.name a).EndsAt rest ∧
      a.takeWhile (· != '.') = e ∧ a.dropWhile (· != '.') ++ rest = r := by
  have hdotted : ∀ c ∈ (r.takeWhile isNameChar).head?, (c != '.') = false := by
    intro c hc
    rw [eq_dot_of_mem_head?_takeWhile hr c hc]
    rfl
  have hnodot : ∀ c ∈ e, (c != '.') = true := by
    intro c hc
    rw [bne_iff_ne]
    rintro rfl
    exact he.dot_not_mem hc
  obtain ⟨htake, hdrop⟩ := takeWhile_append_of_run hnodot hdotted
  refine ⟨e ++ r.takeWhile isNameChar, r.dropWhile isNameChar, ⟨?_, ?_⟩, ?_, ?_, htake, ?_⟩
  · simp [he.1]
  · intro c hc
    rcases List.mem_append.1 hc with hc | hc
    · exact he.isName.2 c hc
    · exact List.mem_takeWhile_imp hc
  · obtain ⟨c, u, rfl⟩ := List.exists_cons_of_ne_nil he.1
    exact ⟨c, rfl, he.2 c List.mem_cons_self⟩
  · intro c hc
    have hstop := List.head?_dropWhile_not isNameChar r
    rw [Option.mem_def.1 hc] at hstop
    simpa using hstop
  · rw [hdrop, List.takeWhile_append_dropWhile]

end Text

namespace Declaration

variable {t rest body : Text} {ts : List Token} {d : Declaration} {kind : ViewKind}

/-! ### Relationships -/

/-- The text states a relationship as far as its destination, and the rest is left: two names and an
arrow between them, with blanks possibly before each, and the second name goes on as far as it
can. -/
def StatesRelationship (t source destination rest : Text) : Prop :=
  ∃ gap gap' gap'' : Text, Blanks gap ∧ source.IsName ∧ Blanks gap' ∧ Blanks gap'' ∧
    destination.IsName ∧ (∀ c ∈ rest.head?, isNameChar c = false) ∧
    t = gap ++ source ++ gap' ++ "->".toList ++ gap'' ++ destination ++ rest

/-- The tokens of a relationship as far as its destination. -/
lemma exists_scan_iff_statesRelationship {source destination : Text} :
    (∃ s s' s'', Token.scan t
        = ⟨.name source, s⟩ :: ⟨.arrow, s'⟩ :: ⟨.name destination, s''⟩ :: ts) ↔
      ∃ rest, StatesRelationship t source destination rest ∧ Token.scan rest = ts := by
  constructor
  · rintro ⟨s, s', s'', hscan⟩
    obtain ⟨gap, t₁, hgap, -, hsource, -, rfl, hscan₁⟩ := Token.scan_eq_cons_iff.1 hscan
    obtain ⟨gap', t₂, hgap', -, -, -, rfl, hscan₂⟩ := Token.scan_eq_cons_iff.1 hscan₁
    obtain ⟨gap'', rest, hgap'', -, hdestination, hends, rfl, hrest⟩ :=
      Token.scan_eq_cons_iff.1 hscan₂
    exact ⟨rest, ⟨gap, gap', gap'', hgap, hsource, hgap', hgap'', hdestination, hends,
      by simp [Lexeme.spell, Lexeme.text]⟩, hrest⟩
  · rintro ⟨rest, ⟨gap, gap', gap'', hgap, hsource, hgap', hgap'', hdestination, hends, rfl⟩, rfl⟩
    have harrow : (Lexeme.name source).EndsAt
        (gap' ++ Lexeme.arrow.spell ++ (gap'' ++ (Lexeme.name destination).spell ++ rest)) := by
      rw [List.append_assoc]
      exact Lexeme.endsAt_name_of_blanks hgap' (c := '-') (by decide) source _
    -- the lexemes are read back one after the other
    have hscan := Token.scan_append hgap (.name source) hsource harrow
    rw [Token.scan_append hgap' .arrow trivial trivial,
      Token.scan_append hgap'' (.name destination) hdestination hends] at hscan
    refine ⟨_, _, _, Eq.trans ?_ hscan⟩
    simp [Lexeme.spell, Lexeme.text]

/-- A statement is read as a relationship exactly if it begins like one up to its destination.  The
description is the argument that follows at once, if there is one, and anything else is left
alone. -/
theorem relationship?_scan_eq_some_iff :
    relationship? (Token.scan t) = some d ↔
      ∃ (source destination rest : Text) (description : Option Text),
        StatesRelationship t source destination rest ∧
        (∀ x, description = some x ↔ ∃ rest', Argument rest x rest') ∧
        d = .relationship source destination description := by
  simp only [← argument?_scan_eq_some_iff]
  rw [relationship?_eq_some_iff]
  constructor
  · rintro ⟨source, destination, s, s', s'', ts, hscan, rfl⟩
    obtain ⟨rest, hstates, rfl⟩ := exists_scan_iff_statesRelationship.1 ⟨s, s', s'', hscan⟩
    exact ⟨source, destination, rest, _, hstates, fun _ => Iff.rfl, rfl⟩
  · rintro ⟨source, destination, rest, description, hstates, hdescription, rfl⟩
    obtain ⟨s, s', s'', hscan⟩ := exists_scan_iff_statesRelationship.2 ⟨rest, hstates, rfl⟩
    obtain rfl : description = argument? (Token.scan rest) := Option.ext hdescription
    exact ⟨source, destination, s, s', s'', _, hscan, rfl⟩

/-- Statements that state a relationship and statements that declare a workspace are told from all
others by their characters: by what they begin with, and for the description by what follows. -/
theorem relationship?_workspace?_scan_iff (t : Text) :
    (∀ d, relationship? (Token.scan t) = some d ↔
      ∃ (source destination rest : Text) (description : Option Text),
        StatesRelationship t source destination rest ∧
        (∀ x, description = some x ↔ ∃ rest', Argument rest x rest') ∧
        d = .relationship source destination description) ∧
    ∀ d, workspace? (Token.scan t) = some d ↔ ∃ gap after name rest gap' rest' : Text,
      Blanks gap ∧ t = gap ++ "workspace".toList ++ after ∧ Argument after name rest ∧ name ≠ [] ∧
        Blanks gap' ∧ rest = gap' ++ '{' :: rest' ∧ d = .workspace name :=
  ⟨fun _ => relationship?_scan_eq_some_iff, fun _ => workspace?_scan_eq_some_iff⟩

/-- A dash before the arrow, or in a name, spoils the relationship; a string right behind the
destination does not, but it is no description. -/
example :
    relationship? (Token.scan "a --> b".toList) = none ∧
      relationship? (Token.scan "a-b -> c".toList) = none ∧
      relationship? (Token.scan "a.b->..\"c\" \"d\"".toList)
        = some (.relationship "a.b".toList "..".toList none) := by
  decide +kernel

/-! ### Views -/

/-- The text declares a view as far as the first word of its target, and the rest is left: the
keyword of the kind, blanks and a word that goes on as far as it can, with blanks possibly before
the keyword. -/
def OpensView (kind : ViewKind) (t target rest : Text) : Prop :=
  ∃ gap space : Text, Blanks gap ∧ space ≠ [] ∧ Blanks space ∧ target.IsWord ∧
    (∀ c ∈ rest.head?, isWordChar c = false) ∧
    t = gap ++ kind.keyword ++ space ++ target ++ rest

/-- An argument begins with a blank. -/
lemma Argument.isBlank_of_cons {c : Char} {u : Text} (h : Argument (c :: u) body rest) :
    Text.isBlank c = true := by
  obtain ⟨space, hne, hspace, -, hcut⟩ := h
  obtain ⟨b, space, rfl⟩ := List.exists_cons_of_ne_nil hne
  obtain rfl : c = b := (List.cons.inj hcut).1
  exact hspace c List.mem_cons_self

/-- Behind the first word of a name, an argument can only follow if the name is that word. -/
lemma argument?_scan_dropWhile {a : Text} (rest : Text) :
    argument? (Token.scan (a.dropWhile (· != '.') ++ rest))
      = if a.contains '.' then none else argument? (Token.scan rest) := by
  cases hdrop : a.dropWhile (· != '.') with
  | nil =>
    have hdot : a.contains '.' = false := by
      rw [List.dropWhile_eq_nil_iff] at hdrop
      rw [Bool.eq_false_iff, ne_eq, List.contains_iff_mem]
      exact fun hmem => absurd (hdrop '.' hmem) (by decide)
    rw [hdot, List.nil_append, if_neg Bool.false_ne_true]
  | cons c u =>
    obtain ⟨hc, w, -, rfl⟩ := Text.dropWhile_eq_cons_iff.1 hdrop
    obtain rfl : c = '.' := by simpa using hc
    have hdot : (w ++ '.' :: u).contains '.' = true := by simp
    rw [hdot, if_pos rfl, Option.eq_none_iff_forall_ne_some]
    -- a dot is no blank, so the text does not begin with an argument
    intro body hbody
    obtain ⟨_, hargument⟩ := argument?_scan_eq_some_iff.1 hbody
    exact absurd hargument.isBlank_of_cons (by decide)

/-- The tokens of a view as far as its target: the keyword and a name, of which the first word is
the target. -/
lemma exists_scan_iff_opensView {target : Text} {title : Option Text} :
    (∃ a s ts, Token.scan t = ⟨.name kind.keyword, s⟩ :: ⟨.name a, true⟩ :: ts ∧
      (∃ c ∈ a.head?, isWordChar c = true) ∧ a.takeWhile (· != '.') = target ∧
      title = if a.contains '.' then none else argument? ts) ↔
      ∃ rest, OpensView kind t target rest ∧ title = argument? (Token.scan rest) := by
  -- a name and what follows it, cut behind its first word
  have hcut : ∀ a rest : Text,
      a.takeWhile (· != '.') ++ (a.dropWhile (· != '.') ++ rest) = a ++ rest := by
    intro a rest
    rw [← List.append_assoc, List.takeWhile_append_dropWhile]
  constructor
  · rintro ⟨a, s, ts, hscan, hfirst, rfl, rfl⟩
    obtain ⟨gap, t₁, hgap, -, -, -, rfl, hscan₁⟩ := Token.scan_eq_cons_iff.1 hscan
    obtain ⟨space, rest, hspace, hspaced, hname, hends, rfl, rfl⟩ :=
      Token.scan_eq_cons_iff.1 hscan₁
    exact ⟨_, ⟨gap, space, hgap, hspaced.1 rfl, hspace, Text.IsName.isWord_takeWhile hname hfirst,
      Text.isWordChar_of_mem_head?_dropWhile hends, by simp [Lexeme.spell, Lexeme.text, hcut]⟩,
      (argument?_scan_dropWhile rest).symm⟩
  · rintro ⟨r, ⟨gap, space, hgap, hne, hspace, hword, hrest, rfl⟩, rfl⟩
    obtain ⟨a, rest, hname, hfirst, hends, rfl, rfl⟩ := Text.exists_name_of_isWord hword hrest
    have hkeyword : (Lexeme.name kind.keyword).Valid := by cases kind <;> decide
    have hblank : (Lexeme.name kind.keyword).EndsAt
        (space ++ (Lexeme.name a).spell ++ rest) := by
      rw [List.append_assoc]
      exact Lexeme.endsAt_name_of_ne_nil hspace hne _ _
    have hspaced : (!space.isEmpty) = true := by simpa using hne
    have hscan := Token.scan_append hgap (.name kind.keyword) hkeyword hblank
    rw [Token.scan_append hspace (.name a) hname hends, hspaced] at hscan
    refine ⟨a, _, _, Eq.trans ?_ hscan, hfirst, rfl, argument?_scan_dropWhile rest⟩
    simp [Lexeme.spell, Lexeme.text, hcut]

/-- A statement is read as a view exactly if it begins like one up to the first word of its target.
The title is the argument that follows that word at once, if there is one, and anything else is left
alone. -/
theorem view?_scan_eq_some_iff :
    view? (Token.scan t) = some d ↔
      ∃ (kind : ViewKind) (target rest : Text) (title : Option Text),
        OpensView kind t target rest ∧
        (∀ x, title = some x ↔ ∃ rest', Argument rest x rest') ∧ d = .view kind target title := by
  simp only [← argument?_scan_eq_some_iff]
  rw [view?_eq_some_iff]
  constructor
  · rintro ⟨kind, a, s, ts, hscan, hfirst, rfl⟩
    obtain ⟨rest, hopens, htitle⟩ :=
      exists_scan_iff_opensView.1 ⟨a, s, ts, hscan, hfirst, rfl, rfl⟩
    exact ⟨kind, _, rest, _, hopens, fun x => by rw [htitle], rfl⟩
  · rintro ⟨kind, target, rest, title, hopens, htitle, rfl⟩
    obtain ⟨a, s, ts, hscan, hfirst, rfl, rfl⟩ :=
      exists_scan_iff_opensView.2 ⟨rest, hopens, Option.ext htitle⟩
    exact ⟨kind, a, s, ts, hscan, hfirst, rfl⟩

/-- Statements that declare a view are told from all others by their characters.  The target is a
word, so it is not empty and holds no dot, and where a dot follows it there is no title, whatever
comes behind. -/
theorem view?_scan_iff (t : Text) :
    (∀ d, view? (Token.scan t) = some d ↔
      ∃ (kind : ViewKind) (target rest : Text) (title : Option Text),
        OpensView kind t target rest ∧
        (∀ x, title = some x ↔ ∃ rest', Argument rest x rest') ∧ d = .view kind target title) ∧
    (∀ kind target title, view? (Token.scan t) = some (.view kind target title) →
      target ≠ [] ∧ '.' ∉ target) ∧
    ∀ kind target rest, OpensView kind t target ('.' :: rest) →
      view? (Token.scan t) = some (.view kind target none) := by
  refine ⟨fun d => view?_scan_eq_some_iff, fun kind target title h => ?_,
    fun kind target rest h => ?_⟩
  · obtain ⟨kind', target', rest, title', hopens, -, heq⟩ := view?_scan_eq_some_iff.1 h
    obtain ⟨rfl, rfl, rfl⟩ := Declaration.view.inj heq
    obtain ⟨_, _, -, -, -, hword, -, -⟩ := hopens
    exact ⟨hword.1, hword.dot_not_mem⟩
  · have hnone : ∀ x, none = some x ↔ ∃ rest', Argument ('.' :: rest) x rest' := by
      intro x
      refine iff_of_false (by simp) ?_
      rintro ⟨rest', hargument⟩
      exact absurd hargument.isBlank_of_cons (by decide)
    exact view?_scan_eq_some_iff.2 ⟨kind, target, _, none, h, hnone, rfl⟩

/-- A view of a dotted name, with a string behind it. -/
theorem view?_scan_iff_dotted :
    let t := "component\tbank.api \"Title\" \x7b".toList
    OpensView .component t "bank".toList ".api \"Title\" \x7b".toList ∧
      view? (Token.scan t) = some (.view .component "bank".toList none) ∧
      "bank".toList ≠ [] ∧ '.' ∉ "bank".toList := by
  intro t
  have hends : ∀ c ∈ ('.' :: "api \"Title\" \x7b".toList).head?, isWordChar c = false := by
    intro c hc
    obtain rfl : '.' = c := Option.some.inj hc
    decide
  have hopens : OpensView .component t "bank".toList ('.' :: "api \"Title\" \x7b".toList) :=
    ⟨[], ['\t'], by decide, by decide, by decide, by decide, hends, by decide⟩
  have hview := (view?_scan_iff t).2.2 _ _ _ hopens
  exact ⟨hopens, hview, (view?_scan_iff t).2.1 _ _ _ hview⟩

end Declaration

end C4Lint
