/-
# What trimming takes

Trimming takes the blanks from both ends of a text, up to the first character and from the last
character that is not blank.  So around a character that is not blank the two ends can be looked at
one at a time, which is `trim_append_cons`, and a text without blanks at its ends is not changed at
all.  `inked` is what is left of a text without any of its blanks, and that is the same before and
after.
-/
import Mathlib.Data.List.TakeWhile
import Mathlib.Tactic.Common
import C4Lint.Proofs.Text.Run
import C4Lint.Text.Line

namespace C4Lint.Text

variable {l t u v : Text} {c : Char}

/-! ### One end -/

lemma trimEnd_eq_self {t : Text} (h : ∀ c ∈ t.getLast?, isBlank c = false) : trimEnd t = t := by
  rw [trimEnd, dropWhile_eq_self (by rwa [List.head?_reverse]), List.reverse_reverse]

lemma trimStart_append_of_blanks (hu : Blanks u) (t : Text) : trimStart (u ++ t) = trimStart t :=
  List.dropWhile_append_of_pos hu

lemma trimEnd_append_of_blanks (hu : Blanks u) (t : Text) : trimEnd (t ++ u) = trimEnd t := by
  rw [trimEnd, trimEnd, List.reverse_append,
    List.dropWhile_append_of_pos fun c hc => hu c (List.mem_reverse.1 hc)]

lemma trimEnd_prefix_self (t : Text) : trimEnd t <+: t := ⟨_, trimEnd_append t⟩

/-- The front of a text is trimmed before a character that is not blank. -/
lemma trimStart_append_cons (hc : isBlank c = false) (u v : Text) :
    trimStart (u ++ c :: v) = trimStart u ++ c :: v := by
  induction u with
  | nil => exact List.dropWhile_cons_of_neg (by simp [hc])
  | cons d u ih =>
    cases hd : isBlank d with
    | true =>
      have hskip : ∀ w : Text, trimStart (d :: w) = trimStart w :=
        fun _ => List.dropWhile_cons_of_pos hd
      rw [List.cons_append, hskip, hskip, ih]
    | false =>
      have hstop : ∀ w : Text, trimStart (d :: w) = d :: w :=
        fun _ => List.dropWhile_cons_of_neg (by simp [hd])
      rw [List.cons_append, hstop, hstop, List.cons_append]

/-- The end of a text is trimmed behind a character that is not blank. -/
lemma trimEnd_append_cons (hc : isBlank c = false) (u v : Text) :
    trimEnd (u ++ c :: v) = u ++ c :: trimEnd v := by
  have h := trimStart_append_cons hc v.reverse u.reverse
  rw [trimStart] at h
  simp [trimEnd, h, trimStart]

lemma trimStart_trimStart (t : Text) : trimStart (trimStart t) = trimStart t := by
  have h := trimStart_append_of_blanks (blanks_takeWhile t) (trimStart t)
  rw [takeWhile_append_trimStart] at h
  exact h.symm

lemma trimEnd_trimEnd (t : Text) : trimEnd (trimEnd t) = trimEnd t := by
  have h := trimStart_trimStart t.reverse
  rw [trimStart, trimStart] at h
  rw [trimEnd, trimEnd, List.reverse_reverse, h]

/-! ### Both ends -/

/-- Around a character that is not blank, both ends are trimmed on their own. -/
theorem trim_append_cons (hc : isBlank c = false) (u v : Text) :
    trim (u ++ c :: v) = trimStart u ++ c :: trimEnd v := by
  rw [trim, trimStart_append_cons hc, trimEnd_append_cons hc]

/-- Blanks before a text without blanks at its ends are all that trimming takes. -/
lemma trim_append_eq {u t : Text} (hu : Blanks u) (hfirst : ∀ c ∈ t.head?, isBlank c = false)
    (hlast : ∀ c ∈ t.getLast?, isBlank c = false) : trim (u ++ t) = t := by
  rw [trim, trimStart, List.dropWhile_append_of_pos hu, dropWhile_eq_self hfirst,
    trimEnd_eq_self hlast]

lemma trim_of_blanks (ht : Blanks t) : trim t = [] := by
  rw [trim, trimStart, List.dropWhile_eq_nil_iff.2 ht]
  rfl

/-- A text holds blanks only, or a character that is not. -/
lemma blanks_or_exists (t : Text) : Blanks t ∨ ∃ u c v, isBlank c = false ∧ t = u ++ c :: v := by
  by_cases ht : Blanks t
  · exact Or.inl ht
  · simp only [Blanks, not_forall, Bool.not_eq_true] at ht
    obtain ⟨c, hmem, hc⟩ := ht
    obtain ⟨u, v, rfl⟩ := List.append_of_mem hmem
    exact Or.inr ⟨u, c, v, hc, rfl⟩

@[simp] lemma trim_trim (t : Text) : trim (trim t) = trim t := by
  rcases blanks_or_exists t with ht | ⟨u, c, v, hc, rfl⟩
  · rw [trim_of_blanks ht]
    rfl
  · rw [trim_append_cons hc, trim_append_cons hc, trimStart_trimStart, trimEnd_trimEnd]

/-- A trimmed text does not begin with a blank. -/
lemma isBlank_of_mem_head?_trim (h : c ∈ (trim t).head?) : isBlank c = false := by
  rcases blanks_or_exists t with ht | ⟨u, d, v, hd, rfl⟩
  · simp [trim_of_blanks ht] at h
  · rw [trim_append_cons hd] at h
    cases hu : trimStart u with
    | nil =>
      rw [hu] at h
      obtain rfl : d = c := by simpa using h
      exact hd
    | cons e w =>
      have hfirst := List.head?_dropWhile_not isBlank u
      rw [hu] at h
      rw [← trimStart, hu] at hfirst
      obtain rfl : e = c := by simpa using h
      simpa using hfirst

/-- A carriage return at the end of a line is a blank. -/
lemma trim_dropReturn (l : Text) : trim (dropReturn l) = trim l := by
  rw [dropReturn]
  split_ifs with h
  · have hblanks : Blanks ['\r'] := by decide
    obtain ⟨u, rfl⟩ := List.getLast?_eq_some_iff.1 h
    rw [List.dropLast_concat]
    rcases blanks_or_exists u with hu | ⟨v, c, w, hc, rfl⟩
    · have hboth : Blanks (u ++ ['\r']) := by
        intro c hc
        rcases List.mem_append.1 hc with hc | hc
        · exact hu c hc
        · exact hblanks c hc
      rw [trim_of_blanks hu, trim_of_blanks hboth]
    · rw [List.append_assoc, List.cons_append, trim_append_cons hc, trim_append_cons hc,
        trimEnd_append_of_blanks hblanks]
  · rfl

/-! ### What is left without the blanks -/

/-- The characters of a text that are not blank. -/
def inked (t : Text) : Text := t.filter fun c => !isBlank c

lemma inked_append (u v : Text) : inked (u ++ v) = inked u ++ inked v := List.filter_append ..

lemma inked_cons (hc : isBlank c = false) (t : Text) : inked (c :: t) = c :: inked t :=
  List.filter_cons_of_pos (by simp [hc])

lemma inked_eq_nil_iff : inked t = [] ↔ Blanks t := by
  simp [inked, List.filter_eq_nil_iff, Blanks]

lemma inked_trim (t : Text) : inked (trim t) = inked t := by
  obtain ⟨u, v, ht, hu, hv⟩ := trim_eq t
  conv_rhs => rw [ht, inked_append, inked_append, inked_eq_nil_iff.2 hu, inked_eq_nil_iff.2 hv,
    List.nil_append, List.append_nil]

end C4Lint.Text
