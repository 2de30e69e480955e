/-
# The grammar of JSON

This file says which texts are JSON and what they mean, without a look at how values are written
here.  `Json.Reads` follows the productions of the standard grammar: a text begins with a value, or
with what stands between the brackets of an array or object, and some text is left.  Any blanks,
escapes and spellings of numbers that the standard has are admitted.  A whole text denotes a value
if nothing but blanks stands around it (`Json.Denotes`).

The grammar is not ambiguous, so that a text denotes at most one value, which is
`Json.Denotes.unique`.
-/
import Mathlib.Algebra.Field.Rat
import Mathlib.Data.Rat.Cast.Order
import Mathlib.Tactic.Common
import C4Lint.Proofs.Text.Run
import C4Lint.Json

namespace C4Lint.Json

/-! ### Blanks -/

/-- Whether a character may stand between the parts of a JSON text. -/
def isSpace (c : Char) : Bool := c == ' ' || c == '\t' || c == '\n' || c == '\r'

/-- The text behind the blanks at its front. -/
def skip (t : Text) : Text := t.dropWhile isSpace

/-! ### Numbers -/

/-- The longest run of digits at the front of a text and the rest, if the run is not empty. -/
def digits? (t : Text) : Option (Text × Text) :=
  if t.takeWhile Char.isDigit = [] then none
  else some (t.takeWhile Char.isDigit, t.dropWhile Char.isDigit)

/-- The digits before the point of a number: a single zero, or a run that does not begin with one. -/
def whole? (t : Text) : Option (Text × Text) :=
  (digits? t).filter fun p => p.1 == ['0'] || p.1.head? != some '0'

/-- The digits behind the point of a number, none if there is no point. -/
def fraction? : Text → Option (Text × Text)
  | '.' :: t => digits? t
  | t => some ([], t)

/-- An exponent behind its mark, with a sign or without one. -/
def power? : Text → Option (ℤ × Text)
  | '+' :: t => (digits? t).map fun p => ((Nat.ofDigitChars 10 p.1 0 : ℤ), p.2)
  | '-' :: t => (digits? t).map fun p => (-(Nat.ofDigitChars 10 p.1 0 : ℤ), p.2)
  | t => (digits? t).map fun p => ((Nat.ofDigitChars 10 p.1 0 : ℤ), p.2)

/-- The exponent of a number, zero if there is none. -/
def exponent? : Text → Option (ℤ × Text)
  | 'e' :: t => power? t
  | 'E' :: t => power? t
  | t => some (0, t)

/-- A number without a sign at the front of a text, and the rest. -/
def unsigned? (t : Text) : Option (ℚ × Text) := do
  let (whole, t) ← whole? t
  let (fraction, t) ← fraction? t
  let (exponent, t) ← exponent? t
  return ((Nat.ofDigitChars 10 (whole ++ fraction) 0 : ℚ) * 10 ^ (exponent - fraction.length), t)

/-- A number at the front of a text, and the rest. -/
def number? : Text → Option (ℚ × Text)
  | '-' :: t => (unsigned? t).map fun p => (-p.1, p.2)
  | t => unsigned? t

/-! ### Strings -/

/-- Whether a character stands for itself in a string. -/
def isUnescaped (c : Char) : Bool := c != '"' && c != '\\' && 0x20 ≤ c.toNat

/-- The character that a letter behind a backslash stands for. -/
def escape? (c : Char) : Option Char :=
  if c = '"' then some '"'
  else if c = '\\' then some '\\'
  else if c = '/' then some '/'
  else if c = 'b' then some '\x08'
  else if c = 'f' then some '\x0c'
  else if c = 'n' then some '\n'
  else if c = 'r' then some '\r'
  else if c = 't' then some '\t'
  else none

/-- The value of a hexadecimal digit. -/
def hexDigit? (c : Char) : Option Nat :=
  if c.isDigit then some (c.toNat - '0'.toNat)
  else if 'a' ≤ c ∧ c ≤ 'f' then some (c.toNat - 'a'.toNat + 10)
  else if 'A' ≤ c ∧ c ≤ 'F' then some (c.toNat - 'A'.toNat + 10)
  else none

/-- The value of four hexadecimal digits. -/
def codeUnit? (a b c d : Char) : Option Nat := do
  return (((← hexDigit? a) * 16 + (← hexDigit? b)) * 16 + (← hexDigit? c)) * 16 + (← hexDigit? d)

/-- The code unit is the first half of a pair. -/
def IsHigh (n : Nat) : Prop := 0xD800 ≤ n ∧ n ≤ 0xDBFF

/-- The code unit is the second half of a pair. -/
def IsLow (n : Nat) : Prop := 0xDC00 ≤ n ∧ n ≤ 0xDFFF

/-- A text begins with the characters of a string and the quote that closes it; what the string is,
and what is left. -/
inductive Chars : Text → Text → Text → Prop
  /-- The closing quote. -/
  | close {r : Text} : Chars [] ('"' :: r) r
  /-- A character that stands for itself. -/
  | plain {c : Char} {s t r : Text} (hc : isUnescaped c = true) (h : Chars s t r) :
      Chars (c :: s) (c :: t) r
  /-- A backslash and a letter. -/
  | escape {e c : Char} {s t r : Text} (he : escape? e = some c) (h : Chars s t r) :
      Chars (c :: s) ('\\' :: e :: t) r
  /-- The number of a character. -/
  | code {a b c d : Char} {n : Nat} {s t r : Text} (hn : codeUnit? a b c d = some n)
      (hhigh : ¬IsHigh n) (hlow : ¬IsLow n) (h : Chars s t r) :
      Chars (Char.ofNat n :: s) ('\\' :: 'u' :: a :: b :: c :: d :: t) r
  /-- The two halves of a pair, for a character whose number has more digits. -/
  | pair {a b c d a' b' c' d' : Char} {m n : Nat} {s t r : Text}
      (hm : codeUnit? a b c d = some m) (hn : codeUnit? a' b' c' d' = some n)
      (hhigh : IsHigh m) (hlow : IsLow n) (h : Chars s t r) :
      Chars (Char.ofNat (0x10000 + (m - 0xD800) * 0x400 + (n - 0xDC00)) :: s)
        ('\\' :: 'u' :: a :: b :: c :: d :: '\\' :: 'u' :: a' :: b' :: c' :: d' :: t) r

/-! ### Values -/

/-- What may stand at the front of a text. -/
inductive Phrase where
  /-- A value. -/
  | value (v : Json)
  /-- The items of an array, at least one, and the bracket behind them. -/
  | items (vs : List Json)
  /-- The members of an object, at least one, and the brace behind them. -/
  | members (ms : List (Text × Json))

/-- A text begins with the name of a member and the colon behind it; what is left. -/
def ReadsName (name t u : Text) : Prop :=
  ∃ s r, skip t = '"' :: s ∧ Chars name s r ∧ skip r = ':' :: u

/-- A text begins with the phrase, and what is left.  A number goes on as long as it can. -/
inductive Reads : Phrase → Text → Text → Prop
  | null {r : Text} : Reads (.value null) ('n' :: 'u' :: 'l' :: 'l' :: r) r
  | trueWord {r : Text} : Reads (.value (bool true)) ('t' :: 'r' :: 'u' :: 'e' :: r) r
  | falseWord {r : Text} : Reads (.value (bool false)) ('f' :: 'a' :: 'l' :: 's' :: 'e' :: r) r
  | number {q : ℚ} {n : Nat} {t r : Text} (h : number? t = some (q, r)) (hq : q = n) :
      Reads (.value (number n)) t r
  | string {s t r : Text} (h : Chars s t r) : Reads (.value (string s)) ('"' :: t) r
  | emptyArray {t r : Text} (h : skip t = ']' :: r) : Reads (.value (array [])) ('[' :: t) r
  | array {vs : List Json} {t r : Text} (h : Reads (.items vs) t r) :
      Reads (.value (array vs)) ('[' :: t) r
  | emptyObject {t r : Text} (h : skip t = '}' :: r) : Reads (.value (object [])) ('{' :: t) r
  | object {ms : List (Text × Json)} {t r : Text} (h : Reads (.members ms) t r) :
      Reads (.value (object ms)) ('{' :: t) r
  | lastItem {v : Json} {t u r : Text} (hv : Reads (.value v) (skip t) u)
      (hu : skip u = ']' :: r) : Reads (.items [v]) t r
  | item {v : Json} {vs : List Json} {t u w r : Text} (hv : Reads (.value v) (skip t) u)
      (hu : skip u = ',' :: w) (hvs : Reads (.items vs) w r) : Reads (.items (v :: vs)) t r
  | lastMember {name : Text} {v : Json} {t u w r : Text} (hname : ReadsName name t u)
      (hv : Reads (.value v) (skip u) w) (hw : skip w = '}' :: r) :
      Reads (.members [(name, v)]) t r
  | member {name : Text} {v : Json} {ms : List (Text × Json)} {t u w x r : Text}
      (hname : ReadsName name t u) (hv : Reads (.value v) (skip u) w) (hw : skip w = ',' :: x)
      (hms : Reads (.members ms) x r) : Reads (.members ((name, v) :: ms)) t r

/-- A whole text denotes a value. -/
def Denotes (t : Text) (v : Json) : Prop := ∃ u, Reads (.value v) (skip t) u ∧ skip u = []

/-! ### One meaning -/

variable {t r : Text}

/-- A number begins with a digit or with a sign. -/
lemma number?_cons_ne_some {c : Char} (hc : c.isDigit = false) (hsign : c ≠ '-') {p : ℚ × Text} :
    number? (c :: t) ≠ some p := by
  have hdigits : digits? (c :: t) = none := by
    rw [digits?, List.takeWhile_cons_of_neg (by simp [hc]), if_pos rfl]
  have hunsigned : unsigned? (c :: t) = none := by
    rw [unsigned?, whole?, hdigits]
    rfl
  unfold number?
  split
  · next h => exact absurd (List.cons.inj h).1 hsign
  · rw [hunsigned]
    exact nofun

/-- The letter that begins the number of a character is not one that stands for a character. -/
lemma escape?_u_ne_some {c : Char} : escape? 'u' ≠ some c := by
  simp [escape?]

/-- A string and its end can be told from the text. -/
theorem Chars.unique {s s' r' : Text} (h : Chars s t r) (h' : Chars s' t r') :
    s = s' ∧ r = r' := by
  induction h generalizing s' with
  | close =>
    cases h' with
    | close => exact ⟨rfl, rfl⟩
    | plain hc => exact absurd hc (by decide)
  | plain hc _ ih =>
    cases h' with
    | plain _ h' =>
      obtain ⟨rfl, rfl⟩ := ih h'
      exact ⟨rfl, rfl⟩
    | _ => exact absurd hc (by decide)
  | escape he _ ih =>
    cases h' with
    | plain hc => exact absurd hc (by decide)
    | escape he' h' =>
      obtain ⟨rfl, rfl⟩ := ih h'
      obtain rfl := Option.some.inj (he.symm.trans he')
      exact ⟨rfl, rfl⟩
    | _ => exact absurd he escape?_u_ne_some
  | code hn hhigh _ _ ih =>
    cases h' with
    | plain hc => exact absurd hc (by decide)
    | escape he => exact absurd he escape?_u_ne_some
    | code hn' _ _ h' =>
      obtain ⟨rfl, rfl⟩ := ih h'
      obtain rfl := Option.some.inj (hn.symm.trans hn')
      exact ⟨rfl, rfl⟩
    | pair hm _ hhigh' =>
      obtain rfl := Option.some.inj (hn.symm.trans hm)
      exact absurd hhigh' hhigh
  | pair hm hn hhigh hlow _ ih =>
    cases h' with
    | plain hc => exact absurd hc (by decide)
    | escape he => exact absurd he escape?_u_ne_some
    | code hm' hhigh' =>
      obtain rfl := Option.some.inj (hm.symm.trans hm')
      exact absurd hhigh hhigh'
    | pair hm' hn' _ _ h' =>
      obtain ⟨rfl, rfl⟩ := ih h'
      obtain rfl := Option.some.inj (hm.symm.trans hm')
      obtain rfl := Option.some.inj (hn.symm.trans hn')
      exact ⟨rfl, rfl⟩

lemma ReadsName.unique {name name' u u' : Text} (h : ReadsName name t u)
    (h' : ReadsName name' t u') : name = name' ∧ u = u' := by
  obtain ⟨s, r, hs, hchars, hu⟩ := h
  obtain ⟨s', r', hs', hchars', hu'⟩ := h'
  obtain rfl := (List.cons.inj (hs.symm.trans hs')).2
  obtain ⟨rfl, rfl⟩ := hchars.unique hchars'
  obtain rfl := (List.cons.inj (hu.symm.trans hu')).2
  exact ⟨rfl, rfl⟩

/-- No other phrase of the same kind stands at the front of the text. -/
def Phrase.Only : Phrase → Text → Text → Prop
  | value v, t, r => ∀ w s, Reads (.value w) t s → v = w ∧ r = s
  | items vs, t, r => ∀ ws s, Reads (.items ws) t s → vs = ws ∧ r = s
  | members ms, t, r => ∀ ns s, Reads (.members ns) t s → ms = ns ∧ r = s

/-- No value begins with a character that does not begin one of the words, a number, a string, an
array or an object. -/
lemma not_reads_value_of_closing {c : Char} (hc : c = ']' ∨ c = '}') {v : Json} :
    ¬Reads (.value v) (c :: t) r := by
  intro h
  cases h with
  | number h => rcases hc with rfl | rfl <;> exact number?_cons_ne_some (by decide) (by decide) h
  | _ => exact absurd hc (by decide)

/-- What stands before a bracket that closes an empty array is no item. -/
lemma not_reads_items {vs : List Json} {u : Text} (h : skip t = ']' :: u) :
    ¬Reads (.items vs) t r := by
  intro hvs
  cases hvs with
  | lastItem hv => exact not_reads_value_of_closing (Or.inl rfl) (h ▸ hv)
  | item hv => exact not_reads_value_of_closing (Or.inl rfl) (h ▸ hv)

/-- What stands before a brace that closes an empty object is no member. -/
lemma not_reads_members {ms : List (Text × Json)} {u : Text} (h : skip t = '}' :: u) :
    ¬Reads (.members ms) t r := by
  intro hms
  have hname : ∃ name v, ReadsName name t v := by
    cases hms with
    | lastMember hname => exact ⟨_, _, hname⟩
    | member hname => exact ⟨_, _, hname⟩
  obtain ⟨name, v, s, _, hs, -⟩ := hname
  exact absurd (List.cons.inj (h.symm.trans hs)).1 (by decide)

/-- A phrase and its end can be told from the text, if it is known whether it is a value, the items
of an array or the members of an object. -/
theorem Reads.unique {p : Phrase} (h : Reads p t r) : p.Only t r := by
  -- values are told apart by their first characters, and the end of a list by the sign behind an
  -- item, which stands where the item ends by induction
  induction h with
  | null =>
    intro w s h
    cases h with
    | null => exact ⟨rfl, rfl⟩
    | number h => exact absurd h (number?_cons_ne_some (by decide) (by decide))
  | trueWord =>
    intro w s h
    cases h with
    | trueWord => exact ⟨rfl, rfl⟩
    | number h => exact absurd h (number?_cons_ne_some (by decide) (by decide))
  | falseWord =>
    intro w s h
    cases h with
    | falseWord => exact ⟨rfl, rfl⟩
    | number h => exact absurd h (number?_cons_ne_some (by decide) (by decide))
  | number h hq =>
    intro w s h'
    cases h' with
    | number h' hq' =>
      obtain ⟨hqq, rfl⟩ := Prod.mk.inj (Option.some.inj (h.symm.trans h'))
      have hn := Nat.cast_injective (R := ℚ) (hq.symm.trans (hqq.trans hq'))
      exact ⟨congrArg _ hn, rfl⟩
    | _ => exact absurd h (number?_cons_ne_some (by decide) (by decide))
  | string hchars =>
    intro w s h
    cases h with
    | string hchars' =>
      obtain ⟨rfl, rfl⟩ := hchars.unique hchars'
      exact ⟨rfl, rfl⟩
    | number h => exact absurd h (number?_cons_ne_some (by decide) (by decide))
  | emptyArray ht =>
    intro w s h
    cases h with
    | emptyArray ht' => exact ⟨rfl, (List.cons.inj (ht.symm.trans ht')).2⟩
    | array hvs => exact absurd hvs (not_reads_items ht)
    | number h => exact absurd h (number?_cons_ne_some (by decide) (by decide))
  | array hvs ih =>
    intro w s h
    cases h with
    | emptyArray ht => exact absurd hvs (not_reads_items ht)
    | array hws =>
      obtain ⟨rfl, rfl⟩ := ih _ _ hws
      exact ⟨rfl, rfl⟩
    | number h => exact absurd h (number?_cons_ne_some (by decide) (by decide))
  | emptyObject ht =>
    intro w s h
    cases h with
    | emptyObject ht' => exact ⟨rfl, (List.cons.inj (ht.symm.trans ht')).2⟩
    | object hms => exact absurd hms (not_reads_members ht)
    | number h => exact absurd h (number?_cons_ne_some (by decide) (by decide))
  | object hms ih =>
    intro w s h
    cases h with
    | emptyObject ht => exact absurd hms (not_reads_members ht)
    | object hns =>
      obtain ⟨rfl, rfl⟩ := ih _ _ hns
      exact ⟨rfl, rfl⟩
    | number h => exact absurd h (number?_cons_ne_some (by decide) (by decide))
  | lastItem _ hu ih =>
    intro ws s h
    cases h with
    | lastItem hv hu' =>
      obtain ⟨rfl, rfl⟩ := ih _ _ hv
      exact ⟨rfl, (List.cons.inj (hu.symm.trans hu')).2⟩
    | item hv hu' =>
      obtain ⟨-, rfl⟩ := ih _ _ hv
      exact absurd (List.cons.inj (hu.symm.trans hu')).1 (by decide)
  | item _ hu _ ih ihs =>
    intro ws s h
    cases h with
    | lastItem hv hu' =>
      obtain ⟨-, rfl⟩ := ih _ _ hv
      exact absurd (List.cons.inj (hu.symm.trans hu')).1 (by decide)
    | item hv hu' hvs =>
      obtain ⟨rfl, rfl⟩ := ih _ _ hv
      obtain rfl := (List.cons.inj (hu.symm.trans hu')).2
      obtain ⟨rfl, rfl⟩ := ihs _ _ hvs
      exact ⟨rfl, rfl⟩
  | lastMember hname _ hw ih =>
    intro ns s h
    cases h with
    | lastMember hname' hv hw' =>
      obtain ⟨rfl, rfl⟩ := hname.unique hname'
      obtain ⟨rfl, rfl⟩ := ih _ _ hv
      exact ⟨rfl, (List.cons.inj (hw.symm.trans hw')).2⟩
    | member hname' hv hw' =>
      obtain ⟨-, rfl⟩ := hname.unique hname'
      obtain ⟨-, rfl⟩ := ih _ _ hv
      exact absurd (List.cons.inj (hw.symm.trans hw')).1 (by decide)
  | member hname _ hw _ ih ihs =>
    intro ns s h
    cases h with
    | lastMember hname' hv hw' =>
      obtain ⟨-, rfl⟩ := hname.unique hname'
      obtain ⟨-, rfl⟩ := ih _ _ hv
      exact absurd (List.cons.inj (hw.symm.trans hw')).1 (by decide)
    | member hname' hv hw' hms =>
      obtain ⟨rfl, rfl⟩ := hname.unique hname'
      obtain ⟨rfl, rfl⟩ := ih _ _ hv
      obtain rfl := (List.cons.inj (hw.symm.trans hw')).2
      obtain ⟨rfl, rfl⟩ := ihs _ _ hms
      exact ⟨rfl, rfl⟩

/-- A text denotes at most one value. -/
theorem Denotes.unique {v w : Json} (hv : Denotes t v) (hw : Denotes t w) : v = w := by
  obtain ⟨u, hv, -⟩ := hv
  obtain ⟨s, hw, -⟩ := hw
  exact (Reads.unique hv w s hw).1

end C4Lint.Json
