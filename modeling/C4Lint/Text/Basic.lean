/-
# Text as a list of characters

Every stage of the linter works on `Text`, the list of the characters of a document, a line or a
name.  Lists keep the splitting of a text visible to proofs: a prefix, a rest and a concatenation
are those of `List`.  This file holds the few questions that the linter asks of a text beyond the
ones that lists already answer: what follows a given prefix, whether a word occurs inside, how many
bytes the text takes, and how a natural number is written in decimal.
-/

namespace C4Lint

/-- A text is the list of its characters, in reading order. -/
abbrev Text := List Char

namespace Text

/-- The rest of `t` after the prefix `p`, if `t` begins with `p`. -/
def after? : (p t : Text) → Option Text
  | [], t => some t
  | _ :: _, [] => none
  | a :: p, c :: t => if a = c then after? p t else none

/-- Whether `t` or one of the texts left after dropping characters at its front satisfies `p`. -/
def someTail (p : Text → Bool) : Text → Bool
  | [] => p []
  | c :: t => p (c :: t) || someTail p t

/-- Whether the word `w` occurs in `t` as a run of neighbouring characters. -/
def occursIn (w t : Text) : Bool :=
  someTail (fun u => (after? w u).isSome) t

/-- The length of a text in the bytes of its UTF-8 form. -/
def byteLength (t : Text) : Nat := t.foldr (fun c n => c.utf8Size + n) 0

/-- The decimal numeral of a natural number, without leading zeros. -/
def decimal (n : Nat) : Text := Nat.toDigits 10 n

/-- The first of two texts is what stands before the rest that `after?` finds. -/
theorem after?_eq_some_iff {p t r : Text} : after? p t = some r ↔ t = p ++ r := by
  induction p generalizing t with
  | nil => simp [after?, eq_comm]
  | cons a p ih =>
    cases t with
    | nil => simp [after?]
    | cons c t =>
      by_cases h : a = c
      · subst h
        simp [after?, ih]
      · simp [after?, h, Ne.symm h]

/-- A tail of `t` satisfies `p` exactly when `t` can be cut before a text that does. -/
theorem someTail_eq_true_iff {p : Text → Bool} {t : Text} :
    someTail p t = true ↔ ∃ u v, t = u ++ v ∧ p v = true := by
  induction t with
  | nil =>
    constructor
    · intro h
      exact ⟨[], [], rfl, h⟩
    · rintro ⟨u, v, h, hv⟩
      obtain ⟨rfl, rfl⟩ := List.append_eq_nil_iff.1 h.symm
      exact hv
  | cons c t ih =>
    simp only [someTail, Bool.or_eq_true, ih]
    constructor
    · rintro (h | ⟨u, v, rfl, h⟩)
      · exact ⟨[], c :: t, rfl, h⟩
      · exact ⟨c :: u, v, rfl, h⟩
    · rintro ⟨u, v, h, hv⟩
      cases u with
      | nil => exact Or.inl (by rw [List.nil_append] at h; rw [h]; exact hv)
      | cons d u =>
        rw [List.cons_append, List.cons.injEq] at h
        exact Or.inr ⟨u, v, h.2, hv⟩

/-- A word occurs in a text exactly when the text is that word between two others. -/
theorem occursIn_eq_true_iff {w t : Text} : occursIn w t = true ↔ ∃ u v, t = u ++ w ++ v := by
  simp only [occursIn, someTail_eq_true_iff, Option.isSome_iff_exists, after?_eq_some_iff]
  constructor
  · rintro ⟨u, _, rfl, v, rfl⟩
    exact ⟨u, v, by simp⟩
  · rintro ⟨u, v, rfl⟩
    exact ⟨u, w ++ v, by simp, v, rfl⟩

end Text

end C4Lint
