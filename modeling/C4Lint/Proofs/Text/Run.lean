/-
# Runs of characters

Much of the linter goes over the characters of one class until another one comes: the blanks before
a brace, the characters of a name, the inside of a string.  `dropWhile_eq_cons_iff` says what such a
run and its end are without the going over, and by `run_append_inj` a text has only one run at its
front.
-/
import Mathlib.Data.List.Basic
import Mathlib.Data.List.TakeWhile
import Mathlib.Tactic.Common
import C4Lint.Text.Blank

namespace C4Lint.Text

/-- A text of blanks, which may be empty and may span lines. -/
def Blanks (t : Text) : Prop := ∀ c ∈ t, isBlank c = true

instance (t : Text) : Decidable (Blanks t) :=
  decidable_of_iff (t.all isBlank = true) List.all_eq_true

/-- Dropping stops at the first character outside of the class, and all before it are in it. -/
theorem dropWhile_eq_cons_iff {p : Char → Bool} {t u : Text} {c : Char} :
    t.dropWhile p = c :: u ↔ p c = false ∧ ∃ run : Text, (∀ d ∈ run, p d = true) ∧ t = run ++ c :: u := by
  constructor
  · intro h
    have hc := List.head?_dropWhile_not p t
    rw [h, List.head?_cons] at hc
    refine ⟨by simpa using hc, t.takeWhile p, fun _ => List.mem_takeWhile_imp, ?_⟩
    rw [← h, List.takeWhile_append_dropWhile]
  · rintro ⟨hc, run, hrun, rfl⟩
    rw [List.dropWhile_append_of_pos hrun, List.dropWhile_cons_of_neg (by simp [hc])]

lemma dropWhile_eq_self {p : Char → Bool} {t : Text} (h : ∀ c ∈ t.head?, p c = false) :
    t.dropWhile p = t := by
  cases t with
  | nil => rfl
  | cons c t => rw [List.dropWhile_cons_of_neg (by simp [h c rfl])]

/-- Characters of the class are taken up to a rest that begins with none of them, and the rest is
left. -/
lemma takeWhile_append_of_run {p : Char → Bool} {a t : Text} (ha : ∀ c ∈ a, p c = true)
    (ht : ∀ c ∈ t.head?, p c = false) :
    (a ++ t).takeWhile p = a ∧ (a ++ t).dropWhile p = t := by
  have hdrop : (a ++ t).dropWhile p = t := by
    rw [List.dropWhile_append_of_pos ha, dropWhile_eq_self ht]
  have hcut : (a ++ t).takeWhile p ++ (a ++ t).dropWhile p = a ++ t :=
    List.takeWhile_append_dropWhile
  rw [hdrop] at hcut
  exact ⟨List.append_cancel_right hcut, hdrop⟩

/-- A text can be cut in one way only into characters of the class and a rest that begins with none
of them. -/
theorem run_append_inj {p : Char → Bool} {a b t u : Text} (ha : ∀ c ∈ a, p c = true)
    (hb : ∀ c ∈ b, p c = true) (ht : ∀ c ∈ t.head?, p c = false) (hu : ∀ c ∈ u.head?, p c = false)
    (h : a ++ t = b ++ u) : a = b ∧ t = u := by
  obtain ⟨hatake, hadrop⟩ := takeWhile_append_of_run ha ht
  obtain ⟨hbtake, hbdrop⟩ := takeWhile_append_of_run hb hu
  rw [h] at hatake hadrop
  exact ⟨hatake.symm.trans hbtake, hadrop.symm.trans hbdrop⟩

lemma blanks_takeWhile (t : Text) : Blanks (t.takeWhile isBlank) :=
  fun _ => List.mem_takeWhile_imp

/-- What comes after blanks at the front of a text. -/
lemma trimStart_eq_cons_iff {t u : Text} {c : Char} :
    trimStart t = c :: u ↔ isBlank c = false ∧ ∃ gap, Blanks gap ∧ t = gap ++ c :: u :=
  dropWhile_eq_cons_iff

end C4Lint.Text
