/-
# Decimal numerals

The numeral of a natural number is a run of digits, and the number can be told from it.  So it can
be told as well where the numeral is followed by something that is not a digit
(`decimal_append_inj`).
-/
import C4Lint.Proofs.Text.Run

namespace C4Lint.Text

variable {m n : Nat} {t u : Text}

lemma decimal_ne_nil (n : Nat) : decimal n ≠ [] := Nat.toDigits_ne_nil

lemma isDigit_of_mem_decimal {c : Char} (h : c ∈ decimal n) : c.isDigit = true :=
  Nat.isDigit_of_mem_toDigits (by decide) (by decide) h

lemma decimal_eq_cons (n : Nat) : ∃ c t, decimal n = c :: t ∧ c.isDigit = true := by
  obtain ⟨c, t, ht⟩ := List.exists_cons_of_ne_nil (decimal_ne_nil n)
  exact ⟨c, t, ht, isDigit_of_mem_decimal (ht ▸ List.mem_cons_self)⟩

lemma not_mem_decimal {c : Char} (hc : c.isDigit = false) (n : Nat) : c ∉ decimal n := by
  intro h
  exact absurd (isDigit_of_mem_decimal h) (by simp [hc])

lemma ofDigitChars_decimal (n : Nat) : Nat.ofDigitChars 10 (decimal n) 0 = n :=
  Nat.ofDigitChars_ten_toDigits

lemma decimal_injective : Function.Injective decimal := by
  intro m n h
  rw [← ofDigitChars_decimal m, h, ofDigitChars_decimal]

/-- Only the numeral of zero begins with a zero. -/
theorem head?_decimal_ne_zero (hn : n ≠ 0) : (decimal n).head? ≠ some '0' := by
  induction n using Nat.strongRecOn with
  | ind n ih =>
    by_cases hsmall : n < 10
    · have hdigit : ∀ m < 10, m ≠ 0 → Nat.digitChar m ≠ '0' := by decide
      rw [decimal, Nat.toDigits_of_lt_base hsmall]
      simpa using hdigit n hsmall hn
    · have hlast : decimal n = decimal (n / 10) ++ [Nat.digitChar (n % 10)] :=
        Nat.toDigits_of_base_le (by decide) (by omega)
      rw [hlast, List.head?_append_of_ne_nil _ (decimal_ne_nil _)]
      exact ih (n / 10) (by omega) (by omega)

/-- A numeral and the number can be told where a character follows that is not a digit. -/
theorem decimal_append_inj (ht : ∀ c ∈ t.head?, c.isDigit = false)
    (hu : ∀ c ∈ u.head?, c.isDigit = false) (h : decimal m ++ t = decimal n ++ u) :
    m = n ∧ t = u := by
  obtain ⟨hmn, htu⟩ := run_append_inj (fun _ => isDigit_of_mem_decimal)
    (fun _ => isDigit_of_mem_decimal) ht hu h
  exact ⟨decimal_injective hmn, htu⟩

end C4Lint.Text
