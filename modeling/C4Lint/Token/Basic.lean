/-
# Tokens of a statement

A statement is a sequence of tokens: names, strings, braces, the equals sign, the arrow, and single
characters that the language gives no meaning.  A token remembers whether blanks stand before it,
because a string counts as an argument of a declaration only when they do.

`Lexeme.spell` writes a lexeme as it stands in a statement, and `Token.spellAll` a whole statement
with one space before each token that blanks precede.
-/
import C4Lint.Text.Word

namespace C4Lint

/-- What a token is, without its surroundings. -/
inductive Lexeme where
  /-- A run of name characters: an identifier, a dotted reference or a keyword. -/
  | name (text : Text)
  /-- A string, without its quotes. -/
  | string (body : Text)
  /-- A string whose closing quote is missing: it reaches to the end of the statement. -/
  | openString (body : Text)
  /-- The brace that opens a block. -/
  | openBrace
  /-- The brace that closes a block. -/
  | closeBrace
  /-- The equals sign between an identifier and its element. -/
  | equals
  /-- The arrow between the ends of a relationship. -/
  | arrow
  /-- Any other character. -/
  | other (c : Char)
deriving DecidableEq, Repr

namespace Lexeme

/-- What the lexeme holds: the text of a name, the inside of a string, the sign itself. -/
def text : Lexeme → Text
  | name t => t
  | string b => b
  | openString b => b
  | openBrace => ['{']
  | closeBrace => ['}']
  | equals => ['=']
  | arrow => ['-', '>']
  | other c => [c]

/-- The lexeme as it is written in a statement. -/
def spell : Lexeme → Text
  | string b => '"' :: b ++ ['"']
  | openString b => '"' :: b
  | l => l.text

/-- Whether the lexeme is a name without dots. -/
def isWord : Lexeme → Bool
  | name t => t.all Text.isWordChar
  | _ => false

end Lexeme

/-- A lexeme in its place in a statement. -/
structure Token where
  /-- What the token is. -/
  lexeme : Lexeme
  /-- Whether blanks stand between the token and whatever comes before it. -/
  spaced : Bool
deriving DecidableEq, Repr

namespace Token

/-- The token as it is written in a statement, after one space if blanks precede it. -/
def spell (t : Token) : Text := if t.spaced then ' ' :: t.lexeme.spell else t.lexeme.spell

/-- The statement that a list of tokens is written as. -/
def spellAll (ts : List Token) : Text := ts.flatMap spell

@[simp] theorem spellAll_nil : spellAll [] = [] := rfl

@[simp] theorem spellAll_cons (t : Token) (ts : List Token) :
    spellAll (t :: ts) = t.spell ++ spellAll ts := by
  simp [spellAll]

end Token

/-- How many braces open a block and how many close one. -/
structure BraceCount where
  /-- The number of opening braces. -/
  opening : Nat
  /-- The number of closing braces. -/
  closing : Nat
deriving DecidableEq, Repr

/-- The braces among the tokens of a statement, those inside strings left out. -/
def Token.braces (ts : List Token) : BraceCount where
  opening := ts.countP fun t => t.lexeme = .openBrace
  closing := ts.countP fun t => t.lexeme = .closeBrace

end C4Lint
