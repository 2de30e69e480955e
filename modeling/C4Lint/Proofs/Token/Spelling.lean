/-
# Reading a spelled statement back

A list of tokens that is written down is read as the same list, if its lexemes keep to their kinds
and neighbours are kept apart where they would run into one another (`Token.Separated`): a name and
a name, a dash and a greater-than sign, an open string and anything.  The main statement is
`Token.scan_spellAll`.  It comes from `Lexeme.read_spell`, by which a lexeme is read back as long as
what follows cannot extend it.
-/
import Mathlib.Data.List.Chain
import C4Lint.Proofs.Text.Run
import C4Lint.Proofs.Token.Lexeme

namespace C4Lint

namespace Text

/-- Blanks do not stand in names. -/
lemma isNameChar_eq_false_of_isBlank {c : Char} (h : isBlank c = true) : isNameChar c = false := by
  obtain ⟨r, hr, hfirst, hlast⟩ := CodeRange.covers_eq_true_iff.1 h
  have hall : ∀ r ∈ blankRanges, ∀ n ∈ List.range' r.first (r.last + 1 - r.first),
      isNameChar (Char.ofNat n) = false := by decide +kernel
  have hmem : c.toNat ∈ List.range' r.first (r.last + 1 - r.first) :=
    List.mem_range'_1.2 ⟨hfirst, by omega⟩
  rw [← Char.ofNat_toNat c]
  exact hall r hr _ hmem

lemma isBlank_eq_false_of_isNameChar {c : Char} (h : isNameChar c = true) : isBlank c = false := by
  cases hb : isBlank c with
  | false => rfl
  | true => exact absurd (isNameChar_eq_false_of_isBlank hb) (by simp [h])

/-- A sign of the language does not stand in names. -/
lemma ne_of_isNameChar {c d : Char} (h : isNameChar c = true) (hd : isNameChar d = false) :
    c ≠ d := by
  rintro rfl
  exact absurd hd (by simp [h])

end Text

open Text (isNameChar isBlank)

namespace Lexeme

/-- The lexeme ends where the text begins: the text cannot extend it. -/
def EndsAt (rest : Text) : Lexeme → Prop
  | name _ => ∀ c ∈ rest.head?, isNameChar c = false
  | openString _ => rest = []
  | other c => c = '-' → rest.head? ≠ some '>'
  | _ => True

lemma readString_string {b : Text} (hb : '"' ∉ b) (rest : Text) :
    readString (b ++ '"' :: rest) = (string b, rest) := by
  have hall : ∀ c ∈ b, (c != '"') = true := by
    intro c hc
    simpa using fun h : c = '"' => hb (h ▸ hc)
  rw [readString, List.dropWhile_append_of_pos hall, List.takeWhile_append_of_pos hall]
  simp

lemma readString_openString {b : Text} (hb : '"' ∉ b) : readString b = (openString b, []) := by
  have hall : ∀ c ∈ b, (c != '"') = true := by
    intro c hc
    simpa using fun h : c = '"' => hb (h ▸ hc)
  rw [readString, List.dropWhile_eq_nil_iff.2 hall]

/-- The first character of a lexeme as it is written is not blank, and the lexeme is read back from
there. -/
theorem read_spell {l : Lexeme} (hl : l.Valid) {rest : Text} (h : l.EndsAt rest) :
    ∃ c t, l.spell ++ rest = c :: t ∧ isBlank c = false ∧ read c t = (l, rest) := by
  cases l with
  | name t =>
    obtain ⟨hne, hchars⟩ := hl
    obtain ⟨c, t, rfl⟩ := List.exists_cons_of_ne_nil hne
    have hc : isNameChar c = true := hchars c List.mem_cons_self
    refine ⟨c, t ++ rest, rfl, Text.isBlank_eq_false_of_isNameChar hc, ?_⟩
    have hquote : c ≠ '"' := Text.ne_of_isNameChar hc (by decide)
    have hdash : c ≠ '-' := Text.ne_of_isNameChar hc (by decide)
    have htail : ∀ d ∈ t, isNameChar d = true := fun d hd => hchars d (List.mem_cons_of_mem _ hd)
    obtain ⟨htake, hdrop⟩ := Text.takeWhile_append_of_run htail h
    rw [read, if_neg hquote, if_neg (fun h => hdash h.1), if_pos hc, htake, hdrop]
  | string b =>
    refine ⟨'"', b ++ '"' :: rest, by simp [spell], by decide, ?_⟩
    rw [read, if_pos rfl, readString_string hl]
  | openString b =>
    obtain rfl : rest = [] := h
    refine ⟨'"', b, by simp [spell], by decide, ?_⟩
    rw [read, if_pos rfl, readString_openString hl]
  | openBrace => exact ⟨'{', rest, rfl, by decide, rfl⟩
  | closeBrace => exact ⟨'}', rest, rfl, by decide, rfl⟩
  | equals => exact ⟨'=', rest, rfl, by decide, rfl⟩
  | arrow => exact ⟨'-', '>' :: rest, rfl, by decide, rfl⟩
  | other c =>
    obtain ⟨hblank, hquote, hname, hopen, hclose, hequals⟩ := hl
    refine ⟨c, rest, rfl, hblank, ?_⟩
    rw [read, if_neg hquote, if_neg fun hd => h hd.1 hd.2, if_neg (by simp [hname]), ofChar,
      if_neg hopen, if_neg hclose, if_neg hequals]

end Lexeme

namespace Lexeme

/-- Only a name begins like a name, and only a greater-than sign like one. -/
lemma of_mem_head?_spell {l : Lexeme} (hl : l.Valid) {rest : Text} {c : Char}
    (hc : c ∈ (l.spell ++ rest).head?) :
    (isNameChar c = true → ∃ a, l = name a) ∧ (c = '>' → l = other '>') := by
  cases l with
  | name a =>
    obtain ⟨hne, hchars⟩ := hl
    obtain ⟨d, a, rfl⟩ := List.exists_cons_of_ne_nil hne
    obtain rfl : d = c := by simpa [spell, text] using hc
    refine ⟨fun _ => ⟨d :: a, rfl⟩, ?_⟩
    rintro rfl
    exact absurd (hchars '>' List.mem_cons_self) (by decide)
  | other d =>
    obtain rfl : d = c := by simpa [spell, text] using hc
    refine ⟨fun hname => absurd hname (by simp [hl.2.2.1]), ?_⟩
    rintro rfl
    rfl
  | _ =>
    simp only [spell, text, List.cons_append, List.head?_cons, Option.mem_some] at hc
    subst hc
    exact ⟨fun h => absurd h (by decide), fun h => absurd h (by decide)⟩

end Lexeme

namespace Token

/-- The second token may follow the first without running into it. -/
def Follows (t u : Token) : Prop :=
  (∀ b, t.lexeme ≠ .openString b) ∧
    (u.spaced = false → (∀ a, t.lexeme = .name a → ∀ b, u.lexeme ≠ .name b) ∧
      (t.lexeme = .other '-' → u.lexeme ≠ .other '>'))

/-- Neighbours among the tokens do not run into one another. -/
def Separated (ts : List Token) : Prop := ts.IsChain Follows

variable {t u : Token} {ts us : List Token}

lemma endsAt_spellAll_cons (hu : u.lexeme.Valid) (h : Follows t u) (us : List Token) :
    t.lexeme.EndsAt (spellAll (u :: us)) := by
  obtain ⟨hopen, hnear⟩ := h
  rw [spellAll_cons, spell]
  cases hs : u.spaced with
  | true =>
    have hspace : isNameChar ' ' = false := by decide
    cases hl : t.lexeme with
    | openString b => exact absurd hl (hopen b)
    | _ => simp [Lexeme.EndsAt, hspace]
  | false =>
    obtain ⟨hnames, hsigns⟩ := hnear hs
    rw [if_neg Bool.false_ne_true]
    cases hl : t.lexeme with
    | openString b => exact absurd hl (hopen b)
    | name a =>
      intro c hc
      rw [Bool.eq_false_iff]
      intro hname
      obtain ⟨b, hb⟩ := (Lexeme.of_mem_head?_spell hu hc).1 hname
      exact hnames a hl b hb
    | other d =>
      rintro rfl hhead
      exact hsigns hl ((Lexeme.of_mem_head?_spell hu hhead).2 rfl)
    | _ => trivial

/-- A lexeme is read back, as long as what follows does not go on with it. -/
lemma scanAfter_spell_append {l : Lexeme} (hl : l.Valid) {rest : Text} (h : l.EndsAt rest)
    (spaced : Bool) : scanAfter spaced (l.spell ++ rest) = ⟨l, spaced⟩ :: scanAfter false rest := by
  obtain ⟨c, u, hspell, hblank, hread⟩ := Lexeme.read_spell hl h
  rw [hspell, scanAfter_cons_of_not_isBlank hblank, hread]

/-- What is written down is read back, with one space before each token that blanks precede. -/
theorem scanAfter_spellAll (hts : ∀ t ∈ ts, t.lexeme.Valid) (hsep : Separated ts) :
    scanAfter false (spellAll ts) = ts := by
  induction ts with
  | nil => simp
  | cons t ts ih =>
    have hends : t.lexeme.EndsAt (spellAll ts) := by
      cases ts with
      | nil => cases hl : t.lexeme <;> simp [Lexeme.EndsAt]
      | cons u us =>
        exact endsAt_spellAll_cons (hts u (by simp)) (List.isChain_cons_cons.1 hsep).1 us
    have hrest := ih (fun u hu => hts u (List.mem_cons_of_mem _ hu)) hsep.tail
    have hscan : ∀ spaced, scanAfter spaced (t.lexeme.spell ++ spellAll ts)
        = ⟨t.lexeme, spaced⟩ :: ts := by
      intro spaced
      rw [scanAfter_spell_append (hts t List.mem_cons_self) hends, hrest]
    obtain ⟨l, spaced⟩ := t
    rw [spellAll_cons, spell]
    cases spaced with
    | true =>
      rw [if_pos rfl, List.cons_append, scanAfter_cons_of_isBlank (by decide)]
      exact hscan true
    | false =>
      rw [if_neg Bool.false_ne_true]
      exact hscan false

/-- Reading a statement undoes writing it. -/
theorem scan_spellAll (hts : ∀ t ∈ ts, t.lexeme.Valid) (hsep : Separated ts) :
    scan (spellAll ts) = ts := scanAfter_spellAll hts hsep

end Token

end C4Lint
