/-
# Tokens and their spelling correspond

A list of tokens is well formed if its lexemes keep to their kinds and neighbours do not run into one
another.  Such lists are read back from their spelling, and only such lists are ever read: what is
read from a text cannot be extended by what comes next (`Lexeme.endsAt_read`), so that the next
token, if it comes at once, belongs to another lexeme (`Token.separated_scan`).  The main statement
is `Token.scan_inverts_spellAll`.
-/
import C4Lint.Proofs.Token.Gaps
import C4Lint.Proofs.Token.Spelling

namespace C4Lint

open Text (isNameChar isBlank)

namespace Lexeme

variable {c : Char} {t : Text}

/-- The longest lexeme at the front of a text is not extended by the rest. -/
theorem endsAt_read (c : Char) (t : Text) : (read c t).1.EndsAt (read c t).2 := by
  rw [read]
  split_ifs with hquote harrow hname
  · rw [readString]
    split <;> simp [EndsAt]
  · trivial
  · intro d hd
    have hstop := List.head?_dropWhile_not isNameChar t
    rw [Option.mem_def.1 hd] at hstop
    simpa using hstop
  · rw [ofChar]
    split_ifs
    · trivial
    · trivial
    · trivial
    · exact fun hdash hhead => harrow ⟨hdash, hhead⟩

/-- The lexeme of a text begins with its first character. -/
lemma head?_spell_read (c : Char) (t : Text) : (read c t).1.spell.head? = some c := by
  have hpos := length_spell_pos c t
  have hspell := spell_append_of_read c t
  obtain ⟨d, u, hu⟩ := List.exists_cons_of_length_pos hpos
  rw [hu, List.cons_append, List.cons.injEq] at hspell
  rw [hu, List.head?_cons, hspell.1]

lemma isNameChar_of_read_eq_name (hc : isBlank c = false) {a : Text}
    (h : (read c t).1 = name a) : isNameChar c = true := by
  have hvalid := valid_read hc t
  have hhead := head?_spell_read c t
  rw [h] at hvalid hhead
  exact hvalid.2 c (List.mem_of_mem_head? hhead)

lemma eq_of_read_eq_other {d : Char} (h : (read c t).1 = other d) : c = d := by
  have hhead := head?_spell_read c t
  rw [h] at hhead
  simpa [spell, text] using hhead.symm

end Lexeme

namespace Token

variable {ts : List Token} {tok next : Token} {t : Text}

/-- The tokens can stand in a text: each keeps to its kind, and neighbours do not run into one
another. -/
structure WellFormed (ts : List Token) : Prop where
  /-- Names and strings hold the characters that they may hold, and so do the other lexemes. -/
  valid : ∀ t ∈ ts, t.lexeme.Valid
  /-- A name directly behind a name, a greater-than sign directly behind a dash, and anything behind
  an open string are out of the question. -/
  separated : Separated ts

/-- A token may be followed by the first one that is read behind it. -/
lemma follows_of_endsAt (hends : tok.lexeme.EndsAt t) (hnext : next ∈ (scanAfter false t).head?) :
    Follows tok next := by
  refine ⟨fun b hb => ?_, fun hnear => ?_⟩
  · rw [hb] at hends
    obtain rfl : t = [] := hends
    simp at hnext
  · -- without a gap the text begins with the next token
    cases t with
    | nil => simp at hnext
    | cons c t =>
      have hblank : isBlank c = false := by
        have hspaced := spaced_of_mem_head?_scanAfter hnext
        simpa [hnear] using hspaced
      rw [scanAfter_cons_of_not_isBlank hblank, List.head?_cons, Option.mem_some] at hnext
      subst hnext
      refine ⟨fun a ha b hb => ?_, fun hdash hgreater => ?_⟩
      · rw [ha] at hends
        have hname : isNameChar c = false := hends c rfl
        rw [Lexeme.isNameChar_of_read_eq_name hblank hb] at hname
        exact Bool.noConfusion hname
      · rw [hdash] at hends
        obtain rfl : c = '>' := Lexeme.eq_of_read_eq_other hgreater
        exact hends rfl rfl

lemma separated_scanAfter (spaced : Bool) (t : Text) : Separated (scanAfter spaced t) := by
  induction spaced, t using scanAfter.induct with
  | case1 spaced =>
    rw [scanAfter_nil]
    exact List.isChain_nil
  | case2 spaced c t hc ih => rwa [scanAfter_cons_of_isBlank hc]
  | case3 spaced c t hc ih =>
    rw [scanAfter_cons_of_not_isBlank (by simpa using hc)]
    exact List.isChain_cons.2
      ⟨fun next hnext => follows_of_endsAt (Lexeme.endsAt_read c t) hnext, ih⟩

/-- The tokens of a text do not run into one another. -/
theorem separated_scan (t : Text) : Separated (scan t) := separated_scanAfter false t

/-- Well-formed tokens are read back from their spelling as they were, with their lexemes and with
what they say about blanks, and the tokens of any text are well formed. -/
theorem scan_inverts_spellAll :
    (∀ ts, WellFormed ts → scan (spellAll ts) = ts) ∧ ∀ t, WellFormed (scan t) := by
  constructor
  · intro ts hts
    exact scan_spellAll hts.valid hts.separated
  · intro t
    exact ⟨fun _ => valid_of_mem_scan, separated_scan t⟩

/-- A dotted name behind a blank and with a string right behind it, names on both sides of a blank,
a dash and a greater-than sign that a blank keeps apart, an arrow, and an open string that ends with
a blank. -/
theorem scan_inverts_spellAll_crowded :
    let ts : List Token :=
      [⟨.name "a.b".toList, true⟩, ⟨.string "\x7b ".toList, false⟩, ⟨.name "c".toList, false⟩,
       ⟨.name "d".toList, true⟩, ⟨.other '-', false⟩, ⟨.other '>', true⟩, ⟨.arrow, false⟩,
       ⟨.openString "e ".toList, false⟩]
    WellFormed ts ∧ scan (spellAll ts) = ts ∧ WellFormed (scan "- >\"".toList) := by
  intro ts
  have hvalid : ∀ t ∈ ts, t.lexeme.Valid := by decide
  have hseparated : Separated ts := by simp [ts, Separated, Follows]
  exact ⟨⟨hvalid, hseparated⟩, scan_inverts_spellAll.1 ts ⟨hvalid, hseparated⟩,
    scan_inverts_spellAll.2 _⟩

end Token

end C4Lint
