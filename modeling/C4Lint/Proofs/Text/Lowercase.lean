/-
# Words in lower case

The lower-case form of a text can be longer than the text, and that of a character may depend on its
neighbours.  Neither matters to a word of ASCII characters that come from ASCII only
(`Text.OnlyFromAscii`): it occurs in the lower-case form exactly if it occurs in the text with its
ASCII letters made small, one by one (`Text.occursIn_lowercase`).

The forms of characters beyond ASCII hold no such character, which is read off the table
(`Text.not_onlyFromAscii_of_mem_lowerForm`), and ASCII characters are replaced one for one, whatever
stands around them (`Text.lowerForm_of_ascii`).
-/
import C4Lint.Proofs.Text.Occurrence
import C4Lint.Text.Lowercase

namespace C4Lint.Text

variable {w before after : Text} {c d : Char} {s : CaseShift} {n : Nat}

/-! ### Characters -/

/-- An ASCII character that no character beyond ASCII has in its lower-case form.  A small `i` is in
that of a capital one with a dot, and a small `k` is that of the sign for kelvin. -/
def OnlyFromAscii (c : Char) : Prop := c.toNat < 0x80 ∧ c ≠ 'i' ∧ c ≠ 'k'

instance (c : Char) : Decidable (OnlyFromAscii c) := inferInstanceAs (Decidable (_ ∧ _))

/-- Every run of the table leads to characters, and only the sign for kelvin leads to ASCII. -/
lemma bounds_of_mem_lowercaseShifts :
    ∀ s ∈ lowercaseShifts, (0x80 ≤ s.target ∨ s.target = 'k'.toNat ∧ s.last = s.first) ∧
      (s.target + (s.last - s.first) < 0xD800 ∨
        0xDFFF < s.target ∧ s.target + (s.last - s.first) < 0x110000) := by
  decide +kernel

lemma CaseShift.bounds_of_applies (h : s.applies n = true) : s.first ≤ n ∧ n ≤ s.last := by
  simp only [applies, Bool.and_eq_true, decide_eq_true_eq] at h
  exact h.1

/-- The forms that a run of the table leads to are the characters of their code points, since none
of these is a surrogate. -/
lemma toNat_ofNat_of_applies (hs : s ∈ lowercaseShifts) (hn : s.applies n = true) :
    (Char.ofNat (s.target + (n - s.first))).toNat = s.target + (n - s.first) := by
  obtain ⟨-, hlast⟩ := CaseShift.bounds_of_applies hn
  have hvalid : (s.target + (n - s.first)).isValidChar := by
    rcases (bounds_of_mem_lowercaseShifts s hs).2 with hbelow | habove
    · exact Or.inl (by omega)
    · exact Or.inr (by omega)
  rw [Char.ofNat, dif_pos hvalid]
  rfl

lemma not_onlyFromAscii_of_applies (hs : s ∈ lowercaseShifts) (hn : s.applies n = true) :
    ¬OnlyFromAscii (Char.ofNat (s.target + (n - s.first))) := by
  rcases (bounds_of_mem_lowercaseShifts s hs).1 with hbeyond | ⟨hkelvin, hsingle⟩
  · rintro ⟨hascii, -⟩
    rw [toNat_ofNat_of_applies hs hn] at hascii
    omega
  · obtain ⟨hfirst, hlast⟩ := CaseShift.bounds_of_applies hn
    have hoffset : n - s.first = 0 := by omega
    rw [hkelvin, hoffset]
    decide

lemma not_onlyFromAscii_lowerChar (hc : 0x80 ≤ c.toNat) : ¬OnlyFromAscii (lowerChar c) := by
  rw [lowerChar, if_neg (by omega)]
  split
  · next s hfind =>
    have happlies := List.find?_some hfind
    exact not_onlyFromAscii_of_applies (List.mem_of_find?_eq_some hfind) happlies
  · rintro ⟨hascii, -⟩
    omega

/-- The lower-case form of a character beyond ASCII, wherever it stands, holds none of the characters
that come from ASCII only. -/
theorem not_onlyFromAscii_of_mem_lowerForm (hc : 0x80 ≤ c.toNat)
    (hd : d ∈ lowerForm before c after) : ¬OnlyFromAscii d := by
  rw [lowerForm] at hd
  split_ifs at hd
  · obtain rfl := List.mem_singleton.1 hd
    decide
  · obtain rfl := List.mem_singleton.1 hd
    decide
  · simp only [List.mem_cons, List.not_mem_nil, or_false] at hd
    rcases hd with rfl | rfl <;> decide
  · obtain rfl := List.mem_singleton.1 hd
    exact not_onlyFromAscii_lowerChar hc

/-- An ASCII character is made small by itself, whatever stands around it. -/
theorem lowerForm_of_ascii (hc : c.toNat < 0x80) (before after : Text) :
    lowerForm before c after = [c.toLower] := by
  have hsigma : c ≠ 'Σ' := by
    rintro rfl
    exact absurd hc (by decide)
  have hdotted : c ≠ 'İ' := by
    rintro rfl
    exact absurd hc (by decide)
  rw [lowerForm, if_neg hsigma, if_neg hdotted, lowerChar, if_pos hc]

lemma lowerForm_ne_nil (before : Text) (c : Char) (after : Text) :
    lowerForm before c after ≠ [] := by
  rw [lowerForm]
  split_ifs <;> simp

/-- One by one, only ASCII letters are made small. -/
lemma toLower_of_beyond_ascii (hc : 0x80 ≤ c.toNat) : c.toLower = c := by
  refine dif_neg ?_
  rintro ⟨-, hle⟩
  have hz : c.toNat ≤ 0x5A := hle
  omega

/-! ### Texts -/

/-- The texts are the same but for the case of ASCII letters. -/
def EqUpToCase (t u : Text) : Prop := t.map Char.toLower = u.map Char.toLower

instance (t u : Text) : Decidable (EqUpToCase t u) := inferInstanceAs (Decidable (_ = _))

/-- Where ASCII letters have been made small, a small word stands for a run of letters in any
case. -/
lemma occursIn_map_toLower_iff (hw : w.map Char.toLower = w) (t : Text) :
    occursIn w (t.map Char.toLower) = true ↔ ∃ run : Text, run <:+: t ∧ run.EqUpToCase w := by
  rw [occursIn_iff_isInfix, List.infix_map_iff]
  simp only [EqUpToCase, hw, eq_comm]

lemma lowercaseAfter_cons_of_ascii (hc : c.toNat < 0x80) (before t : Text) :
    lowercaseAfter before (c :: t) = c.toLower :: lowercaseAfter (c :: before) t := by
  rw [lowercaseAfter, lowerForm_of_ascii hc, List.singleton_append]

/-- Such a word begins the lower-case form exactly if it begins the text with small ASCII letters. -/
lemma isSome_after?_lowercaseAfter (hw : ∀ c ∈ w, OnlyFromAscii c) (before t : Text) :
    (after? w (lowercaseAfter before t)).isSome = (after? w (t.map Char.toLower)).isSome := by
  induction t generalizing w before with
  | nil => rfl
  | cons c t ih =>
    cases w with
    | nil => rfl
    | cons d w =>
      obtain ⟨hd, hw⟩ := List.forall_mem_cons.1 hw
      rcases Nat.lt_or_ge c.toNat 0x80 with hc | hc
      · rw [lowercaseAfter_cons_of_ascii hc, List.map_cons, after?, after?]
        split_ifs
        · exact ih hw _
        · rfl
      · -- what stands first on either side does not come from ASCII only, as the word does
        obtain ⟨e, form, hform⟩ := List.exists_cons_of_ne_nil (lowerForm_ne_nil before c t)
        have hde : d ≠ e := by
          rintro rfl
          exact not_onlyFromAscii_of_mem_lowerForm hc (hform ▸ List.mem_cons_self) hd
        have hdc : d ≠ c := by
          rintro rfl
          exact absurd hd.1 (by omega)
        rw [lowercaseAfter, hform, List.cons_append, List.map_cons, toLower_of_beyond_ascii hc,
          after?, after?, if_neg hde, if_neg hdc]

/-- Whatever stands before a text, such a word occurs in its lower-case form exactly if it occurs in
the text with small ASCII letters. -/
lemma occursIn_lowercaseAfter (hw : ∀ c ∈ w, OnlyFromAscii c) (before t : Text) :
    occursIn w (lowercaseAfter before t) = occursIn w (t.map Char.toLower) := by
  rcases eq_or_ne w [] with rfl | hne
  · rw [occursIn_nil_left, occursIn_nil_left]
  · induction t generalizing before with
    | nil => rfl
    | cons c t ih =>
      rcases Nat.lt_or_ge c.toNat 0x80 with hc | hc
      · have hbegin := isSome_after?_lowercaseAfter hw before (c :: t)
        rw [lowercaseAfter_cons_of_ascii hc, List.map_cons] at hbegin ⊢
        rw [occursIn_cons, occursIn_cons, hbegin, ih]
      · -- the character and its form stand outside of the word
        have hform : ∀ e ∈ lowerForm before c t, e ∉ w := fun e he hmem =>
          not_onlyFromAscii_of_mem_lowerForm hc he (hw e hmem)
        have hcw : c ∉ w := fun hmem => absurd (hw c hmem).1 (by omega)
        rw [lowercaseAfter, occursIn_append_of_forall_not_mem hne hform, ih, List.map_cons,
          toLower_of_beyond_ascii hc, occursIn_cons_of_not_mem hne hcw]

/-- A word of characters that come from ASCII only occurs in the lower-case form of a text exactly if
it occurs in the text with its ASCII letters made small. -/
theorem occursIn_lowercase (hw : ∀ c ∈ w, OnlyFromAscii c) (t : Text) :
    occursIn w (lowercase t) = occursIn w (t.map Char.toLower) :=
  occursIn_lowercaseAfter hw [] t

/-- A small `k` may come from elsewhere. -/
example : occursIn ['k'] (lowercase ['\u212A']) = true ∧
    occursIn ['k'] (['\u212A'].map Char.toLower) = false := by
  decide +kernel

end C4Lint.Text
