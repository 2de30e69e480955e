/-
# The grammars, character by character

The readers of declarations work on tokens.  This file says what they accept without tokens: how a
statement is made up of blanks, words, signs and strings in quotes so that it declares a workspace
(`Declaration.workspace?_scan_eq_some_iff`) or an element (`Declaration.element?_scan_eq_some_iff`).
Each token of a grammar is taken from the text by `Token.scan_eq_cons_iff`, and what is left of the
text is read on.
-/
import C4Lint.Proofs.Declaration.Names
import C4Lint.Proofs.Token.First

namespace C4Lint

open Text (Blanks)

namespace Declaration

variable {t rest body : Text} {ts : List Token} {d : Declaration} {kind : ElementKind}

/-! ### String arguments -/

/-- The text is an argument and the rest: at least one blank, and the string in quotes. -/
def Argument (t body rest : Text) : Prop :=
  ∃ space : Text, space ≠ [] ∧ Blanks space ∧ '"' ∉ body ∧
    t = space ++ '"' :: body ++ '"' :: rest

/-- A name ends before an argument, because blanks stand there. -/
lemma Argument.endsAt_name (h : Argument t body rest) (a : Text) : (Lexeme.name a).EndsAt t := by
  obtain ⟨space, hne, hspace, -, rfl⟩ := h
  rw [List.append_assoc]
  exact Lexeme.endsAt_name_of_ne_nil hspace hne a _

/-- A string that blanks precede is read exactly where there is an argument. -/
lemma scan_eq_string_cons_iff :
    Token.scan t = ⟨.string body, true⟩ :: ts ↔
      ∃ rest, Argument t body rest ∧ Token.scan rest = ts := by
  rw [Token.scan_eq_cons_iff]
  constructor
  · rintro ⟨space, rest, hspace, hspaced, hquote, -, rfl, rfl⟩
    exact ⟨rest, ⟨space, hspaced.1 rfl, hspace, hquote, by simp [Lexeme.spell]⟩, rfl⟩
  · rintro ⟨rest, ⟨space, hne, hspace, hquote, rfl⟩, rfl⟩
    exact ⟨space, rest, hspace, iff_of_true rfl hne, hquote, trivial, by simp [Lexeme.spell], rfl⟩

lemma argument?_scan_eq_some_iff :
    argument? (Token.scan t) = some body ↔ ∃ rest, Argument t body rest := by
  simp only [argument?_eq_some_iff, scan_eq_string_cons_iff]
  exact ⟨fun ⟨_, rest, h, _⟩ => ⟨rest, h⟩, fun ⟨rest, h⟩ => ⟨_, rest, h, rfl⟩⟩

/-- Tags are the second of two arguments, where the kind has them. -/
lemma tags?_scan_eq_some_iff :
    tags? kind (Token.scan t) = some body ↔ kind.acceptsTags = true ∧
      ∃ technology rest rest', Argument t technology rest ∧ Argument rest body rest' := by
  simp only [tags?_eq_some_iff, scan_eq_string_cons_iff]
  refine and_congr_right' ⟨?_, ?_⟩
  · rintro ⟨technology, _, rest, h, rest', h', -⟩
    exact ⟨technology, rest, rest', h, h'⟩
  · rintro ⟨technology, rest, rest', h, h'⟩
    exact ⟨technology, _, rest, h, rest', h', rfl⟩

/-! ### Workspaces -/

/-- A statement declares a workspace exactly if it consists of the keyword, a name that is not
empty, an opening brace and anything, with blanks before the name and possibly around the others. -/
theorem workspace?_scan_eq_some_iff :
    workspace? (Token.scan t) = some d ↔ ∃ gap after name rest gap' rest' : Text,
      Blanks gap ∧ t = gap ++ "workspace".toList ++ after ∧ Argument after name rest ∧ name ≠ [] ∧
        Blanks gap' ∧ rest = gap' ++ '{' :: rest' ∧ d = .workspace name := by
  rw [workspace?_eq_some_iff]
  constructor
  · rintro ⟨name, s, s', ts, hscan, hname, rfl⟩
    obtain ⟨gap, after, hgap, -, -, -, rfl, hafter⟩ := Token.scan_eq_cons_iff.1 hscan
    obtain ⟨rest, hargument, hrest⟩ := scan_eq_string_cons_iff.1 hafter
    obtain ⟨gap', rest', hgap', -, -, -, rfl, -⟩ := Token.scan_eq_cons_iff.1 hrest
    exact ⟨gap, after, name, _, gap', rest', hgap, rfl, hargument, hname, hgap',
      by simp [Lexeme.spell, Lexeme.text], rfl⟩
  · rintro ⟨gap, after, name, rest, gap', rest', hgap, rfl, hargument, hname, hgap', rfl, rfl⟩
    have hkeyword : (Lexeme.name "workspace".toList).Valid := by decide
    have hbrace := @Token.scan_append gap' rest' hgap' .openBrace trivial trivial
    rw [List.append_assoc] at hbrace
    have hstring := scan_eq_string_cons_iff.2 ⟨_, hargument, hbrace⟩
    have hscan := Token.scan_append hgap _ hkeyword (hargument.endsAt_name _)
    rw [hstring] at hscan
    exact ⟨name, _, _, _, hscan, hname, rfl⟩

/-! ### Elements -/

/-- The text declares an element as far as its description, and the rest is left: the identifier,
the equals sign, the keyword of the kind and a description that is not empty, with blanks before the
description and possibly before the others. -/
def OpensElement (kind : ElementKind) (t identifier description rest : Text) : Prop :=
  ∃ gap gap' gap'' after : Text, Blanks gap ∧ identifier.IsWord ∧ Blanks gap' ∧ Blanks gap'' ∧
    t = gap ++ identifier ++ gap' ++ '=' :: gap'' ++ kind.keyword ++ after ∧
    Argument after description rest ∧ description ≠ []

/-- The tokens of an element as far as its description. -/
lemma exists_scan_iff_opensElement {identifier description : Text} :
    (∃ s s' s'', Token.scan t = ⟨.name identifier, s⟩ :: ⟨.equals, s'⟩ :: ⟨.name kind.keyword, s''⟩
        :: ⟨.string description, true⟩ :: ts ∧
      identifier.all Text.isWordChar = true ∧ description ≠ []) ↔
      ∃ rest, OpensElement kind t identifier description rest ∧ Token.scan rest = ts := by
  constructor
  · rintro ⟨s, s', s'', hscan, hword, hdescription⟩
    obtain ⟨gap, t₁, hgap, -, hname, -, rfl, hscan₁⟩ := Token.scan_eq_cons_iff.1 hscan
    obtain ⟨gap', t₂, hgap', -, -, -, rfl, hscan₂⟩ := Token.scan_eq_cons_iff.1 hscan₁
    obtain ⟨gap'', after, hgap'', -, -, -, rfl, hscan₃⟩ := Token.scan_eq_cons_iff.1 hscan₂
    obtain ⟨rest, hargument, hrest⟩ := scan_eq_string_cons_iff.1 hscan₃
    exact ⟨rest, ⟨gap, gap', gap'', after, hgap, ⟨hname.1, List.all_eq_true.1 hword⟩, hgap', hgap'',
      by simp [Lexeme.spell, Lexeme.text], hargument, hdescription⟩, hrest⟩
  · rintro ⟨rest, ⟨gap, gap', gap'', after, hgap, hword, hgap', hgap'', rfl, hargument,
      hdescription⟩, rfl⟩
    have hkeyword : (Lexeme.name kind.keyword).Valid := by cases kind <;> decide
    have hsign : (Lexeme.name identifier).EndsAt
        (gap' ++ Lexeme.equals.spell ++ (gap'' ++ (Lexeme.name kind.keyword).spell ++ after)) := by
      rw [List.append_assoc]
      exact Lexeme.endsAt_name_of_blanks hgap' (c := '=') (by decide) identifier _
    -- the lexemes are read back one after the other
    have hscan := Token.scan_append hgap (.name identifier) hword.isName hsign
    rw [Token.scan_append hgap' .equals trivial trivial,
      Token.scan_append hgap'' (.name kind.keyword) hkeyword (hargument.endsAt_name _),
      scan_eq_string_cons_iff.2 ⟨rest, hargument, rfl⟩] at hscan
    refine ⟨_, _, _, Eq.trans ?_ hscan, List.all_eq_true.2 hword.2, hdescription⟩
    simp [Lexeme.spell, Lexeme.text]

/-- A statement is read as an element exactly if it begins like one up to its description.  Then the
technology is the argument that follows at once, if there is one, and the tags are the argument
behind it, if there are both and the element is no person.  Anything else that follows is left
alone. -/
theorem element?_scan_eq_some_iff :
    element? kind (Token.scan t) = some d ↔
      ∃ (identifier description rest : Text) (technology tags : Option Text),
        OpensElement kind t identifier description rest ∧
        (∀ x, technology = some x ↔ ∃ rest', Argument rest x rest') ∧
        (∀ y, tags = some y ↔ kind ≠ .person ∧
          ∃ x rest' rest'', Argument rest x rest' ∧ Argument rest' y rest'') ∧
        d = .element kind identifier description technology tags := by
  have htags : kind.acceptsTags = true ↔ kind ≠ .person := by cases kind <;> decide
  simp only [← htags, ← argument?_scan_eq_some_iff, ← tags?_scan_eq_some_iff]
  rw [element?_eq_some_iff]
  constructor
  · rintro ⟨identifier, description, s, s', s'', ts, hscan, hword, hdescription, rfl⟩
    obtain ⟨rest, hopens, rfl⟩ :=
      exists_scan_iff_opensElement.1 ⟨s, s', s'', hscan, hword, hdescription⟩
    exact ⟨identifier, description, rest, _, _, hopens, fun _ => Iff.rfl, fun _ => Iff.rfl, rfl⟩
  · rintro ⟨identifier, description, rest, technology, tags, hopens, htechnology, htags, rfl⟩
    obtain ⟨s, s', s'', hscan, hword, hdescription⟩ :=
      exists_scan_iff_opensElement.2 ⟨rest, hopens, rfl⟩
    obtain rfl : technology = argument? (Token.scan rest) := Option.ext htechnology
    obtain rfl : tags = tags? kind (Token.scan rest) := Option.ext htags
    exact ⟨identifier, description, s, s', s'', _, hscan, hword, hdescription, rfl⟩

/-- A string right behind the description is no technology, and a later one is no tags then. -/
example : element? .container (Token.scan "a=container\t\"b\"\"c\" \"d\"".toList)
    = some (.element .container "a".toList "b".toList none none) := by
  decide +kernel

end Declaration

end C4Lint
