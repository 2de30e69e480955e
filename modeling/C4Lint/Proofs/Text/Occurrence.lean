/-
# Where a word may occur

A word occurs in a text only between the characters that it does not hold.  This is what keeps a
keyword in its place: it cannot reach from one name or string of a statement into the next, since
blanks and quotes stand between them (`occursIn_append_cons`).
-/
import Mathlib.Data.List.Basic
import Mathlib.Tactic.Common
import C4Lint.Text.Basic

namespace C4Lint.Text

variable {w t u v : Text} {c : Char}

lemma occursIn_self (w : Text) : occursIn w w = true :=
  occursIn_eq_true_iff.2 ⟨[], [], by simp⟩

lemma occursIn_append_left (h : occursIn w u = true) (v : Text) : occursIn w (u ++ v) = true := by
  obtain ⟨a, b, rfl⟩ := occursIn_eq_true_iff.1 h
  exact occursIn_eq_true_iff.2 ⟨a, b ++ v, by simp⟩

lemma occursIn_append_right (u : Text) (h : occursIn w v = true) : occursIn w (u ++ v) = true := by
  obtain ⟨a, b, rfl⟩ := occursIn_eq_true_iff.1 h
  exact occursIn_eq_true_iff.2 ⟨u ++ a, b, by simp⟩

/-- A word occurs on one of the two sides of a character that it does not hold. -/
theorem occursIn_append_cons (hc : c ∉ w) (hw : w ≠ []) (u v : Text) :
    occursIn w (u ++ c :: v) = (occursIn w u || occursIn w v) := by
  rw [Bool.eq_iff_iff, Bool.or_eq_true]
  constructor
  · intro h
    obtain ⟨a, b, hab⟩ := occursIn_eq_true_iff.1 h
    rw [List.append_assoc] at hab
    -- the word begins before the character or behind it, and does not reach over it
    rcases List.append_eq_append_iff.1 hab with ⟨d, rfl, hd⟩ | ⟨d, rfl, hd⟩
    · cases d with
      | nil =>
        cases w with
        | nil => exact absurd rfl hw
        | cons e w =>
          simp only [List.nil_append, List.cons_append, List.cons.injEq] at hd
          exact absurd (hd.1 ▸ List.mem_cons_self) hc
      | cons e d =>
        simp only [List.cons_append, List.cons.injEq] at hd
        exact Or.inr (occursIn_eq_true_iff.2 ⟨d, b, by rw [hd.2]; simp⟩)
    · rcases List.append_eq_append_iff.1 hd with ⟨e, rfl, -⟩ | ⟨e, hew, he⟩
      · exact Or.inl (occursIn_eq_true_iff.2 ⟨a, e, by simp⟩)
      · cases e with
        | nil =>
          rw [List.append_nil] at hew
          exact Or.inl (occursIn_eq_true_iff.2 ⟨a, [], by simp [hew]⟩)
        | cons f e =>
          simp only [List.cons_append, List.cons.injEq] at he
          exact absurd (by rw [hew, ← he.1]; simp) hc
  · rintro (h | h)
    · exact occursIn_append_left h _
    · exact occursIn_append_right _ (occursIn_append_right [c] h)

lemma occursIn_nil_left (t : Text) : occursIn [] t = true :=
  occursIn_eq_true_iff.2 ⟨[], t, rfl⟩

lemma occursIn_nil (hw : w ≠ []) : occursIn w [] = false := by
  rw [Bool.eq_false_iff, ne_eq, occursIn_eq_true_iff]
  rintro ⟨u, v, h⟩
  simp [hw] at h

/-- A word occurs at the front of a text or behind its first character. -/
lemma occursIn_cons (w : Text) (c : Char) (t : Text) :
    occursIn w (c :: t) = ((after? w (c :: t)).isSome || occursIn w t) := rfl

lemma occursIn_cons_of_not_mem (hw : w ≠ []) (hc : c ∉ w) (t : Text) :
    occursIn w (c :: t) = occursIn w t := by
  have h := occursIn_append_cons hc hw [] t
  rwa [List.nil_append, occursIn_nil hw, Bool.false_or] at h

/-- Characters that a word does not hold can be left out before a text. -/
lemma occursIn_append_of_forall_not_mem (hw : w ≠ []) (hu : ∀ c ∈ u, c ∉ w) (t : Text) :
    occursIn w (u ++ t) = occursIn w t := by
  induction u with
  | nil => rfl
  | cons c u ih =>
    obtain ⟨hc, hu⟩ := List.forall_mem_cons.1 hu
    rw [List.cons_append, occursIn_cons_of_not_mem hw hc, ih hu]

lemma occursIn_iff_isInfix : occursIn w t = true ↔ w <:+: t := by
  rw [occursIn_eq_true_iff]
  exact exists₂_congr fun _ _ => eq_comm

/-- A text that begins with a word holds it. -/
lemma occursIn_of_isPrefixOf (h : w.isPrefixOf t = true) : occursIn w t = true := by
  obtain ⟨v, rfl⟩ := List.isPrefixOf_iff_prefix.1 h
  exact occursIn_append_left (occursIn_self w) v

end C4Lint.Text
