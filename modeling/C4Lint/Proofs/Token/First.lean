/-
# The first token of a text

The first token of a text is found where the text can be cut into blanks, a lexeme as it is written,
and a rest that does not go on with the lexeme; the other tokens are those of the rest.  The main
statement is `Token.scan_eq_cons_iff`.  By it a grammar over tokens becomes a grammar over
characters, one token after the other.
-/
import C4Lint.Proofs.Token.RoundTrip

namespace C4Lint

open Text (isNameChar isBlank Blanks)

/-- Blanks end a name, if there are any. -/
lemma Lexeme.endsAt_name_of_ne_nil {gap : Text} (hgap : Blanks gap) (hne : gap ≠ []) (a t : Text) :
    (Lexeme.name a).EndsAt (gap ++ t) := by
  intro d hd
  obtain ⟨c, gap, rfl⟩ := List.exists_cons_of_ne_nil hne
  obtain rfl : c = d := by simpa using hd
  exact Text.isNameChar_eq_false_of_isBlank (hgap c List.mem_cons_self)

/-- Blanks and a sign end a name. -/
lemma Lexeme.endsAt_name_of_blanks {gap : Text} (hgap : Blanks gap) {c : Char}
    (hc : isNameChar c = false) (a t : Text) : (Lexeme.name a).EndsAt (gap ++ c :: t) := by
  rcases eq_or_ne gap [] with rfl | hne
  · intro d hd
    obtain rfl : c = d := by simpa using hd
    exact hc
  · exact endsAt_name_of_ne_nil hgap hne a _

namespace Token

variable {t gap rest : Text} {tok : Token} {ts : List Token}

/-- Blanks leave no trace but that they have been there. -/
lemma scanAfter_blanks_append (hgap : Blanks gap) (spaced : Bool) (t : Text) :
    scanAfter spaced (gap ++ t) = scanAfter (spaced || !gap.isEmpty) t := by
  induction gap generalizing spaced with
  | nil => simp
  | cons c gap ih =>
    have htail : Blanks gap := fun d hd => hgap d (List.mem_cons_of_mem _ hd)
    rw [List.cons_append, scanAfter_cons_of_isBlank (hgap c List.mem_cons_self), ih htail]
    simp

/-- Behind blanks a lexeme is read back, as long as the rest does not go on with it. -/
lemma scan_append (hgap : Blanks gap) (l : Lexeme) (hl : l.Valid) (hrest : l.EndsAt rest) :
    scan (gap ++ l.spell ++ rest) = ⟨l, !gap.isEmpty⟩ :: scan rest := by
  rw [scan, List.append_assoc, scanAfter_blanks_append hgap, scanAfter_spell_append hl hrest,
    Bool.false_or, scan]

/-- The first token of a text stands behind the blanks that it knows of and before the rest, which
does not go on with it, and the other tokens are those of the rest. -/
theorem scan_eq_cons_iff :
    scan t = tok :: ts ↔ ∃ gap rest, Blanks gap ∧ (tok.spaced = true ↔ gap ≠ []) ∧
      tok.lexeme.Valid ∧ tok.lexeme.EndsAt rest ∧ t = gap ++ tok.lexeme.spell ++ rest ∧
      scan rest = ts := by
  constructor
  · intro h
    have hgap := Text.blanks_takeWhile t
    have ht := Text.takeWhile_append_trimStart t
    rw [← ht, scan, scanAfter_blanks_append hgap, Bool.false_or] at h
    cases hu : Text.trimStart t with
    | nil => simp [hu] at h
    | cons c u =>
      have hblank := (Text.trimStart_eq_cons_iff.1 hu).1
      rw [hu, scanAfter_cons_of_not_isBlank hblank, List.cons.injEq] at h
      obtain ⟨rfl, rfl⟩ := h
      refine ⟨t.takeWhile isBlank, (Lexeme.read c u).2, hgap, by simp, Lexeme.valid_read hblank u,
        Lexeme.endsAt_read c u, ?_, rfl⟩
      rw [List.append_assoc, Lexeme.spell_append_of_read, ← hu, ht]
  · rintro ⟨gap, rest, hgap, hspaced, hvalid, hends, rfl, rfl⟩
    obtain ⟨l, spaced⟩ := tok
    obtain rfl : spaced = !gap.isEmpty := by
      rw [Bool.eq_iff_iff, hspaced]
      simp
    exact scan_append hgap l hvalid hends

end Token

end C4Lint
