/-
# What each grammar accepts

Each reader of declarations takes a statement by the tokens that it begins with.  For every reader
this file says once from which tokens it makes which declaration, so that a declaration can be traced
back to the statement that made it: `workspace?_eq_some_iff`, `element?_eq_some_iff`,
`relationship?_eq_some_iff`, `view?_eq_some_iff` and `styles?_eq_some_iff`.
-/
import Mathlib.Tactic.Common
import C4Lint.Declaration.Grammar

namespace C4Lint.Declaration

variable {ts : List Token} {d : Declaration}

lemma argument?_eq_some_iff {body : Text} :
    argument? ts = some body ↔ ∃ rest, ts = ⟨.string body, true⟩ :: rest := by
  constructor
  · intro h
    unfold argument? at h
    split at h
    · next rest =>
      obtain rfl := Option.some.inj h
      exact ⟨rest, rfl⟩
    · exact absurd h (by simp)
  · rintro ⟨rest, rfl⟩
    rfl

/-- Tags come right behind a technology, where the kind has them. -/
lemma tags?_eq_some_iff {kind : ElementKind} {body : Text} :
    tags? kind ts = some body ↔ kind.acceptsTags = true ∧
      ∃ technology rest, ts = ⟨.string technology, true⟩ :: ⟨.string body, true⟩ :: rest := by
  constructor
  · intro h
    unfold tags? at h
    split at h
    · next technology rest =>
      obtain ⟨hkind, hbody⟩ := Option.ite_none_right_eq_some.1 h
      obtain ⟨rest', rfl⟩ := argument?_eq_some_iff.1 hbody
      exact ⟨hkind, technology, rest', rfl⟩
    · exact absurd h (by simp)
  · rintro ⟨hkind, technology, rest, rfl⟩
    rw [tags?, if_pos hkind, argument?]

/-- Optional arguments are strings among the tokens. -/
lemma mem_of_argument? {body : Text} (h : body ∈ argument? ts) : ⟨.string body, true⟩ ∈ ts := by
  obtain ⟨rest, rfl⟩ := argument?_eq_some_iff.1 h
  exact List.mem_cons_self

lemma mem_of_tags? {kind : ElementKind} {body : Text} (h : body ∈ tags? kind ts) :
    ⟨.string body, true⟩ ∈ ts := by
  obtain ⟨-, technology, rest, rfl⟩ := tags?_eq_some_iff.1 h
  exact List.mem_cons_of_mem _ List.mem_cons_self

lemma argument?_ne_none_of_tags? {kind : ElementKind} (h : tags? kind ts ≠ none) :
    argument? ts ≠ none ∧ kind.acceptsTags = true := by
  obtain ⟨body, hbody⟩ := Option.ne_none_iff_exists'.1 h
  obtain ⟨hkind, technology, rest, rfl⟩ := tags?_eq_some_iff.1 hbody
  exact ⟨by simp [argument?], hkind⟩

theorem workspace?_eq_some_iff :
    workspace? ts = some d ↔ ∃ name s s' rest,
      ts = ⟨.name "workspace".toList, s⟩ :: ⟨.string name, true⟩ :: ⟨.openBrace, s'⟩ :: rest ∧
        name ≠ [] ∧ d = .workspace name := by
  constructor
  · intro h
    unfold workspace? at h
    split at h
    · next word s name s' rest =>
      obtain ⟨⟨rfl, hname⟩, hd⟩ := Option.ite_none_right_eq_some.1 h
      exact ⟨name, s, s', rest, rfl, hname, (Option.some.inj hd).symm⟩
    · exact absurd h (by simp)
  · rintro ⟨name, s, s', rest, rfl, hname, rfl⟩
    exact if_pos ⟨rfl, hname⟩

theorem element?_eq_some_iff {kind : ElementKind} :
    element? kind ts = some d ↔ ∃ identifier description s s' s'' rest,
      ts = ⟨.name identifier, s⟩ :: ⟨.equals, s'⟩ :: ⟨.name kind.keyword, s''⟩
          :: ⟨.string description, true⟩ :: rest ∧
        identifier.all Text.isWordChar = true ∧ description ≠ [] ∧
        d = .element kind identifier description (argument? rest) (tags? kind rest) := by
  constructor
  · intro h
    unfold element? at h
    split at h
    · next identifier s s' word s'' description rest =>
      obtain ⟨⟨hidentifier, rfl, hdescription⟩, hd⟩ := Option.ite_none_right_eq_some.1 h
      exact ⟨identifier, description, s, s', s'', rest, rfl, hidentifier, hdescription,
        (Option.some.inj hd).symm⟩
    · exact absurd h (by simp)
  · rintro ⟨identifier, description, s, s', s'', rest, rfl, hidentifier, hdescription, rfl⟩
    exact if_pos ⟨hidentifier, rfl, hdescription⟩

theorem relationship?_eq_some_iff :
    relationship? ts = some d ↔ ∃ source destination s s' s'' rest,
      ts = ⟨.name source, s⟩ :: ⟨.arrow, s'⟩ :: ⟨.name destination, s''⟩ :: rest ∧
        d = .relationship source destination (argument? rest) := by
  constructor
  · intro h
    unfold relationship? at h
    split at h
    · next source s s' destination s'' rest =>
      exact ⟨source, destination, s, s', s'', rest, rfl, (Option.some.inj h).symm⟩
    · exact absurd h (by simp)
  · rintro ⟨source, destination, s, s', s'', rest, rfl, rfl⟩
    rfl

/-- Of a dotted target only the first word counts, and then a title is not looked for. -/
theorem view?_eq_some_iff :
    view? ts = some d ↔ ∃ kind target s rest,
      ts = ⟨.name (ViewKind.keyword kind), s⟩ :: ⟨.name target, true⟩ :: rest ∧
        (∃ c ∈ target.head?, Text.isWordChar c = true) ∧
        d = .view kind (target.takeWhile (· != '.'))
          (if target.contains '.' then none else argument? rest) := by
  have hhead : ∀ target : Text, (target.head?.map Text.isWordChar).getD false = true ↔
      ∃ c ∈ target.head?, Text.isWordChar c = true := by
    intro target
    cases target <;> simp
  constructor
  · intro h
    unfold view? at h
    split at h
    · next word s target rest =>
      obtain ⟨htarget, hd⟩ := Option.ite_none_right_eq_some.1 h
      obtain ⟨kind, hkind, rfl⟩ := Option.map_eq_some_iff.1 hd
      obtain rfl := ViewKind.ofKeyword?_eq_some_iff.1 hkind
      exact ⟨kind, target, s, rest, rfl, (hhead target).1 htarget, rfl⟩
    · exact absurd h (by simp)
  · rintro ⟨kind, target, s, rest, rfl, htarget, rfl⟩
    rw [view?, if_pos ((hhead target).2 htarget), ViewKind.ofKeyword?_eq_some_iff.2 rfl,
      Option.map_some]

theorem styles?_eq_some_iff {t : Text} :
    styles? t = some d ↔ t = "styles \x7b".toList ∧ d = .styles := by
  rw [styles?, Option.ite_none_right_eq_some, Option.some.injEq, @eq_comm _ d]

end C4Lint.Declaration
