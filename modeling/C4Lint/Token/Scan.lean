/-
# Reading the tokens of a statement

`Lexeme.read` reads the longest lexeme at the front of a text that begins with a character that is
not blank, and `Token.scan` reads a whole statement with it.  The main statement is
`Lexeme.spell_append_of_read`: a lexeme as it is written, followed by the rest, is the text that
was read, so reading drops and invents nothing.
-/
import C4Lint.Token.Basic

namespace C4Lint

namespace Lexeme

/-- The lexeme of a character that is neither blank nor part of a longer lexeme. -/
def ofChar (c : Char) : Lexeme :=
  if c = '{' then openBrace
  else if c = '}' then closeBrace
  else if c = '=' then equals
  else other c

/-- The string whose opening quote stands before `t`, and the rest after its closing quote. -/
def readString (t : Text) : Lexeme × Text :=
  match t.dropWhile (· != '"') with
  | [] => (openString t, [])
  | _ :: rest => (string (t.takeWhile (· != '"')), rest)

/-- The longest lexeme that begins with `c` and goes on in `t`, and the rest of `t`. -/
def read (c : Char) (t : Text) : Lexeme × Text :=
  if c = '"' then readString t
  else if c = '-' ∧ t.head? = some '>' then (arrow, t.tail)
  else if Text.isNameChar c then
    (name (c :: t.takeWhile Text.isNameChar), t.dropWhile Text.isNameChar)
  else (ofChar c, t)

theorem spell_ofChar (c : Char) : (ofChar c).spell = [c] := by
  unfold ofChar
  split
  · next h => rw [h]; rfl
  · split
    · next h => rw [h]; rfl
    · split
      · next h => rw [h]; rfl
      · rfl

theorem spell_append_readString (t : Text) :
    (readString t).1.spell ++ (readString t).2 = '"' :: t := by
  have h : t.takeWhile (· != '"') ++ t.dropWhile (· != '"') = t := List.takeWhile_append_dropWhile
  unfold readString
  split
  · simp [spell]
  · next d rest hd =>
    have hq : d = '"' := by
      have := List.head?_dropWhile_not (· != '"') t
      rw [hd] at this
      simpa using this
    subst hq
    rw [hd] at h
    simp [spell, h]

/-- Reading loses nothing: the lexeme as it is written, followed by the rest, is the text. -/
theorem spell_append_of_read (c : Char) (t : Text) :
    (read c t).1.spell ++ (read c t).2 = c :: t := by
  unfold read
  split
  · next h => rw [h]; exact spell_append_readString t
  · split
    · next h =>
      obtain ⟨rfl, ht⟩ := h
      cases t with
      | nil => simp at ht
      | cons d t =>
        obtain rfl : d = '>' := by simpa using ht
        rfl
    · split
      · simp [spell, text]
      · simp [spell_ofChar]

theorem length_spell_pos (c : Char) (t : Text) : 0 < (read c t).1.spell.length := by
  unfold read
  split
  · unfold readString
    split <;> simp [spell]
  · split
    · simp [spell, text]
    · split
      · simp [spell, text]
      · simp [spell_ofChar]

/-- The rest after a lexeme is no longer than the text after its first character. -/
theorem length_rest_le (c : Char) (t : Text) : (read c t).2.length ≤ t.length := by
  have h := congrArg List.length (spell_append_of_read c t)
  have hpos := length_spell_pos c t
  simp only [List.length_append, List.length_cons] at h
  omega

end Lexeme

namespace Token

/-- The tokens of a text; `spaced` says whether blanks have been skipped right before it. -/
def scanAfter (spaced : Bool) : Text → List Token
  | [] => []
  | c :: t =>
    if Text.isBlank c then scanAfter true t
    else ⟨(Lexeme.read c t).1, spaced⟩ :: scanAfter false (Lexeme.read c t).2
termination_by t => t.length
decreasing_by
  · simp
  · have := Lexeme.length_rest_le c t
    simp only [List.length_cons]
    omega

/-- The tokens of a statement. -/
def scan (t : Text) : List Token := scanAfter false t

@[simp] theorem scanAfter_nil (spaced : Bool) : scanAfter spaced [] = [] := by
  rw [scanAfter]

theorem scanAfter_cons_of_isBlank {c : Char} (h : Text.isBlank c = true) (spaced : Bool)
    (t : Text) : scanAfter spaced (c :: t) = scanAfter true t := by
  rw [scanAfter, if_pos h]

theorem scanAfter_cons_of_not_isBlank {c : Char} (h : Text.isBlank c = false) (spaced : Bool)
    (t : Text) :
    scanAfter spaced (c :: t)
      = ⟨(Lexeme.read c t).1, spaced⟩ :: scanAfter false (Lexeme.read c t).2 := by
  rw [scanAfter, h]
  rfl

end Token

end C4Lint
