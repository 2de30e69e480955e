/-
# The pretty form is JSON

The pretty form of a value is a text of the grammar and denotes the value (`Json.denotes_pretty`).
The induction is on the value together with the lists inside it: a value is read back before
everything that a pretty form puts behind one, which is nothing, a comma or a line feed, and so are
the items of an array and the members of an object with what closes them.
-/
import C4Lint.Proofs.Json.Grammar
import C4Lint.Proofs.Text.Decimal

namespace C4Lint.Json

variable {t r : Text}

/-! ### Numbers -/

/-- What follows a value in a pretty form: nothing, a comma or a line feed. -/
def Follows (r : Text) : Prop := ∀ c ∈ r.head?, c = ',' ∨ c = '\n'

lemma digits?_append {a : Text} (ha : a ≠ []) (hdigits : ∀ c ∈ a, c.isDigit = true)
    (hr : Follows r) : digits? (a ++ r) = some (a, r) := by
  have hstop : ∀ c ∈ r.head?, c.isDigit = false := by
    intro c hc
    rcases hr c hc with rfl | rfl <;> rfl
  obtain ⟨htake, hdrop⟩ := Text.takeWhile_append_of_run hdigits hstop
  rw [digits?, htake, hdrop, if_neg ha]

/-- The numeral of a natural number denotes the number. -/
theorem number?_decimal_append (n : Nat) (hr : Follows r) :
    number? (Text.decimal n ++ r) = some ((n : ℚ), r) := by
  have hdigits := digits?_append (Text.decimal_ne_nil n) (fun _ => Text.isDigit_of_mem_decimal) hr
  have hwhole : whole? (Text.decimal n ++ r) = some (Text.decimal n, r) := by
    have hzero : (Text.decimal n == ['0'] || (Text.decimal n).head? != some '0') = true := by
      by_cases hn : n = 0
      · subst hn
        decide
      · simp [Text.head?_decimal_ne_zero hn]
    rw [whole?, hdigits, Option.filter_some, if_pos hzero]
  have hfraction : fraction? r = some ([], r) := by
    cases r with
    | nil => rfl
    | cons c r => rcases hr c rfl with rfl | rfl <;> rfl
  have hexponent : exponent? r = some (0, r) := by
    cases r with
    | nil => rfl
    | cons c r => rcases hr c rfl with rfl | rfl <;> rfl
  have hunsigned : unsigned? (Text.decimal n ++ r) = some ((n : ℚ), r) := by
    simp [unsigned?, hwhole, hfraction, hexponent, Text.ofDigitChars_decimal]
  unfold number?
  split
  · next t h =>
    obtain ⟨c, u, hu, hc⟩ := Text.decimal_eq_cons n
    rw [hu] at h
    obtain rfl := (List.cons.inj h).1
    exact absurd hc (by decide)
  · exact hunsigned

/-! ### Strings -/

/-- The number of a control character has two hexadecimal digits. -/
lemma codeUnit?_digitChar {n : Nat} (hn : n < 0x20) :
    codeUnit? '0' '0' (Nat.digitChar (n / 16)) (Nat.digitChar (n % 16)) = some n := by
  have hdigit : ∀ m < 16, hexDigit? (Nat.digitChar m) = some m := by decide
  have hzero : hexDigit? '0' = some 0 := by decide
  simp only [codeUnit?, hzero, hdigit (n / 16) (by omega), hdigit (n % 16) (by omega),
    Option.bind_eq_bind, Option.bind_some, Option.pure_def, Option.some.injEq]
  omega

/-- A character as it is written in a string stands for the character. -/
lemma Chars.escapeChar_append {s : Text} (c : Char) (h : Chars s t r) :
    Chars (c :: s) (escapeChar c ++ t) r := by
  unfold escapeChar
  split_ifs with hquote hslash hb hf hn hr ht hcontrol
  · exact .escape (congrArg some hquote.symm) h
  · exact .escape (congrArg some hslash.symm) h
  · exact .escape (congrArg some hb.symm) h
  · exact .escape (congrArg some hf.symm) h
  · exact .escape (congrArg some hn.symm) h
  · exact .escape (congrArg some hr.symm) h
  · exact .escape (congrArg some ht.symm) h
  · have hcode := Chars.code (codeUnit?_digitChar hcontrol) (by simp only [IsHigh]; omega)
      (by simp only [IsLow]; omega) h
    rwa [Char.ofNat_toNat] at hcode
  · have hplain : isUnescaped c = true := by
      simp [isUnescaped, hquote, hslash, Nat.not_lt.1 hcontrol]
    exact .plain hplain h

/-- A string as it is written stands for the string. -/
theorem chars_flatMap_escapeChar (s r : Text) :
    Chars s (s.flatMap escapeChar ++ '"' :: r) r := by
  induction s with
  | nil => exact .close
  | cons c s ih =>
    rw [List.flatMap_cons, List.append_assoc]
    exact ih.escapeChar_append c

/-! ### Layout -/

lemma skip_cons {c : Char} (hc : isSpace c = false) (t : Text) : skip (c :: t) = c :: t :=
  List.dropWhile_cons_of_neg (by simp [hc])

lemma skip_newline_append (d : Nat) (t : Text) : skip (newline d ++ t) = skip t := by
  have hspace : ∀ c ∈ newline d, isSpace c = true := by
    rintro c (_ | ⟨_, hc⟩)
    · rfl
    · rw [List.eq_of_mem_replicate hc]
      rfl
  exact List.dropWhile_append_of_pos hspace

/-- The pretty form of a value does not begin with a blank. -/
lemma prettyAt_eq_cons (d : Nat) (j : Json) :
    ∃ c t, prettyAt d j = c :: t ∧ isSpace c = false := by
  cases j with
  | null => exact ⟨_, _, rfl, rfl⟩
  | bool b => cases b <;> exact ⟨_, _, rfl, rfl⟩
  | number n =>
    obtain ⟨c, t, ht, hc⟩ := Text.decimal_eq_cons n
    refine ⟨c, t, by rw [prettyAt, ht], ?_⟩
    by_contra hspace
    simp only [isSpace, Bool.not_eq_false, Bool.or_eq_true, beq_iff_eq] at hspace
    rcases hspace with ((rfl | rfl) | rfl) | rfl <;> exact absurd hc (by decide)
  | string t => exact ⟨_, _, rfl, rfl⟩
  | array items => cases items <;> exact ⟨_, _, rfl, rfl⟩
  | object members => cases members <;> exact ⟨_, _, rfl, rfl⟩

lemma skip_prettyAt_append (d : Nat) (j : Json) (t : Text) :
    skip (prettyAt d j ++ t) = prettyAt d j ++ t := by
  obtain ⟨c, u, hu, hc⟩ := prettyAt_eq_cons d j
  rw [hu]
  exact skip_cons hc _

lemma follows_newline_append (d : Nat) (t : Text) : Follows (newline d ++ t) := by
  rintro c ⟨⟩
  exact Or.inr rfl

lemma follows_prettyItems_append (d : Nat) (js : List Json) (ht : Follows t) :
    Follows (prettyItems d js ++ t) := by
  cases js with
  | nil => exact ht
  | cons j js =>
    rintro c ⟨⟩
    exact Or.inl rfl

lemma follows_prettyMembers_append (d : Nat) (ms : List (Text × Json)) (ht : Follows t) :
    Follows (prettyMembers d ms ++ t) := by
  cases ms with
  | nil => exact ht
  | cons m ms =>
    rintro c ⟨⟩
    exact Or.inl rfl

lemma readsName_quote (d : Nat) (name u : Text) :
    ReadsName name (newline d ++ (quote name ++ (": ".toList ++ u))) (' ' :: u) := by
  refine ⟨_, _, ?_, chars_flatMap_escapeChar name (": ".toList ++ u), rfl⟩
  rw [skip_newline_append, quote, List.append_assoc]
  exact skip_cons rfl _

/-! ### Values -/

mutual

/-- The pretty form of a value denotes the value, and what follows is left. -/
theorem reads_prettyAt (d : Nat) (j : Json) {r : Text} (hr : Follows r) :
    Reads (.value j) (prettyAt d j ++ r) r := by
  match j with
  | null => exact .null
  | bool true => exact .trueWord
  | bool false => exact .falseWord
  | number n =>
    rw [prettyAt]
    exact .number (number?_decimal_append n hr) rfl
  | string s =>
    rw [prettyAt, quote, List.append_assoc]
    exact .string (chars_flatMap_escapeChar s r)
  | array [] => exact .emptyArray rfl
  | array (j :: js) =>
    simp only [prettyAt, List.append_assoc, List.cons_append, List.nil_append]
    exact .array (reads_items (d + 1) d j js r)
  | object [] => exact .emptyObject rfl
  | object ((name, j) :: ms) =>
    simp only [prettyAt, List.append_assoc, List.cons_append, List.nil_append, prettyMember]
    exact .object (reads_members (d + 1) d name j ms r)
termination_by sizeOf j

/-- The items of an array are read back. -/
theorem reads_items (d e : Nat) (j : Json) (js : List Json) (r : Text) :
    Reads (.items (j :: js))
      (newline d ++ (prettyAt d j ++ (prettyItems d js ++ (newline e ++ ']' :: r)))) r := by
  have hj := reads_prettyAt d j
    (follows_prettyItems_append d js (follows_newline_append e (']' :: r)))
  rw [← skip_prettyAt_append, ← skip_newline_append d] at hj
  match js with
  | [] =>
    refine .lastItem hj ?_
    rw [prettyItems, List.nil_append, skip_newline_append]
    exact skip_cons rfl r
  | k :: ks =>
    refine .item hj ?_ (reads_items d e k ks r)
    simp only [prettyItems, List.append_assoc, List.cons_append]
    exact skip_cons rfl _
termination_by sizeOf j + sizeOf js + 1

/-- The members of an object are read back. -/
theorem reads_members (d e : Nat) (name : Text) (j : Json) (ms : List (Text × Json)) (r : Text) :
    Reads (.members ((name, j) :: ms))
      (newline d ++ (quote name ++ (": ".toList ++ (prettyAt d j
        ++ (prettyMembers d ms ++ (newline e ++ '}' :: r)))))) r := by
  have hj := reads_prettyAt d j
    (follows_prettyMembers_append d ms (follows_newline_append e ('}' :: r)))
  have hskip : ∀ t, skip (' ' :: (prettyAt d j ++ t)) = prettyAt d j ++ t :=
    fun t => skip_prettyAt_append d j t
  rw [← hskip] at hj
  match ms with
  | [] =>
    refine .lastMember (readsName_quote d name _) hj ?_
    rw [prettyMembers, List.nil_append, skip_newline_append]
    exact skip_cons rfl r
  | (other, k) :: ms =>
    refine .member (readsName_quote d name _) hj ?_ (reads_members d e other k ms r)
    simp only [prettyMembers, prettyMember, List.append_assoc, List.cons_append]
    exact skip_cons rfl _
termination_by sizeOf j + sizeOf ms + 1

end

/-- The pretty form of a value denotes the value. -/
theorem denotes_pretty (j : Json) : Denotes j.pretty j := by
  have hj := reads_prettyAt 0 j (r := []) (by rintro c ⟨⟩)
  rw [← skip_prettyAt_append, List.append_nil] at hj
  exact ⟨[], hj, rfl⟩

end C4Lint.Json
