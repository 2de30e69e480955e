/-
# What the lexemes of a statement hold

Every lexeme that is read from a statement keeps to its kind: a name is a run of name characters, a
string holds no quote, and a character becomes a lexeme of its own only if it belongs to no other
kind.  The predicate is `Lexeme.Valid`, and the main statement is `Token.valid_of_mem_scan`.
-/
import Mathlib.Data.List.TakeWhile
import Mathlib.Tactic.Common
import C4Lint.Token.Scan

namespace C4Lint

namespace Lexeme

/-- The lexeme keeps to its kind. -/
def Valid : Lexeme → Prop
  | name t => t ≠ [] ∧ ∀ c ∈ t, Text.isNameChar c = true
  | string b => '"' ∉ b
  | openString b => '"' ∉ b
  | openBrace => True
  | closeBrace => True
  | equals => True
  | arrow => True
  | other c =>
    Text.isBlank c = false ∧ c ≠ '"' ∧ Text.isNameChar c = false ∧ c ≠ '{' ∧ c ≠ '}' ∧ c ≠ '='

instance : DecidablePred Valid
  | name t =>
    decidable_of_iff (t ≠ [] ∧ t.all Text.isNameChar = true) (by rw [Valid, List.all_eq_true])
  | string b => inferInstanceAs (Decidable ('"' ∉ b))
  | openString b => inferInstanceAs (Decidable ('"' ∉ b))
  | openBrace => isTrue trivial
  | closeBrace => isTrue trivial
  | equals => isTrue trivial
  | arrow => isTrue trivial
  | other c => inferInstanceAs (Decidable (Text.isBlank c = false ∧ c ≠ '"' ∧
      Text.isNameChar c = false ∧ c ≠ '{' ∧ c ≠ '}' ∧ c ≠ '='))

lemma valid_ofChar {c : Char} (hblank : Text.isBlank c = false) (hquote : c ≠ '"')
    (hname : Text.isNameChar c = false) : (ofChar c).Valid := by
  rw [ofChar]
  split_ifs with h1 h2 h3
  · trivial
  · trivial
  · trivial
  · exact ⟨hblank, hquote, hname, h1, h2, h3⟩

lemma valid_readString (t : Text) : (readString t).1.Valid := by
  rw [readString]
  split
  · next h =>
    intro hmem
    simpa using List.dropWhile_eq_nil_iff.1 h '"' hmem
  · intro hmem
    simpa using List.mem_takeWhile_imp hmem

/-- A lexeme that is read keeps to its kind. -/
lemma valid_read {c : Char} (hc : Text.isBlank c = false) (t : Text) : (read c t).1.Valid := by
  rw [read]
  split_ifs with hquote harrow hname
  · exact valid_readString t
  · trivial
  · refine ⟨by simp, fun d hd => ?_⟩
    rcases List.mem_cons.1 hd with rfl | hd
    · exact hname
    · exact List.mem_takeWhile_imp hd
  · exact valid_ofChar hc hquote (by simpa using hname)

end Lexeme

namespace Token

lemma valid_of_mem_scanAfter {spaced : Bool} {t : Text} {tok : Token}
    (h : tok ∈ scanAfter spaced t) : tok.lexeme.Valid := by
  induction spaced, t using scanAfter.induct with
  | case1 spaced => simp at h
  | case2 spaced c t hc ih =>
    rw [scanAfter_cons_of_isBlank hc] at h
    exact ih h
  | case3 spaced c t hc ih =>
    have hblank : Text.isBlank c = false := by simpa using hc
    rw [scanAfter_cons_of_not_isBlank hblank, List.mem_cons] at h
    rcases h with rfl | h
    · exact Lexeme.valid_read hblank t
    · exact ih h

/-- The lexemes of a statement keep to their kinds. -/
theorem valid_of_mem_scan {t : Text} {tok : Token} (h : tok ∈ scan t) : tok.lexeme.Valid :=
  valid_of_mem_scanAfter h

end Token

end C4Lint
