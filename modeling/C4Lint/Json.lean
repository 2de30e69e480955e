/-
# JSON values and their pretty form

The part of JSON that a report needs: every value except numbers with a sign, a fraction or an
exponent.  `Json.pretty` puts each item of an array and each member of an object on a line of its
own, two spaces deeper than what encloses it; an empty array or object stays on one line.
-/
import C4Lint.Text.Basic

namespace C4Lint

/-- A JSON value. -/
inductive Json where
  /-- The value that stands for a missing one. -/
  | null
  /-- A truth value. -/
  | bool (b : Bool)
  /-- A natural number. -/
  | number (n : Nat)
  /-- A string. -/
  | string (t : Text)
  /-- An array of values. -/
  | array (items : List Json)
  /-- An object, with its members in the order in which they are written. -/
  | object (members : List (Text × Json))

namespace Json

/-- A character as it is written inside a string.  A quote, a backslash and the characters below
U+0020 are escaped, by a letter where there is one and else by two hexadecimal digits; all others
stand for themselves. -/
def escapeChar (c : Char) : Text :=
  if c = '"' then ['\\', '"']
  else if c = '\\' then ['\\', '\\']
  else if c = '\x08' then ['\\', 'b']
  else if c = '\x0c' then ['\\', 'f']
  else if c = '\n' then ['\\', 'n']
  else if c = '\r' then ['\\', 'r']
  else if c = '\t' then ['\\', 't']
  else if c.toNat < 0x20 then
    ['\\', 'u', '0', '0', Nat.digitChar (c.toNat / 16), Nat.digitChar (c.toNat % 16)]
  else [c]

/-- A string in quotes. -/
def quote (t : Text) : Text := '"' :: t.flatMap escapeChar ++ ['"']

/-- A new line, indented for the given depth. -/
def newline (depth : Nat) : Text := '\n' :: List.replicate (2 * depth) ' '

mutual

/-- The pretty form of a value that is enclosed by `depth` others. -/
def prettyAt (depth : Nat) : Json → Text
  | null => "null".toList
  | bool true => "true".toList
  | bool false => "false".toList
  | number n => Text.decimal n
  | string t => quote t
  | array [] => ['[', ']']
  | array (item :: items) =>
    '[' :: newline (depth + 1) ++ prettyAt (depth + 1) item ++ prettyItems (depth + 1) items
      ++ newline depth ++ [']']
  | object [] => ['{', '}']
  | object (m :: members) =>
    '{' :: newline (depth + 1) ++ prettyMember (depth + 1) m
      ++ prettyMembers (depth + 1) members ++ newline depth ++ ['}']

/-- The items of an array after the first one. -/
def prettyItems (depth : Nat) : List Json → Text
  | [] => []
  | item :: items =>
    ',' :: newline depth ++ prettyAt depth item ++ prettyItems depth items

/-- A member of an object. -/
def prettyMember (depth : Nat) : Text × Json → Text
  | (name, value) => quote name ++ ": ".toList ++ prettyAt depth value

/-- The members of an object after the first one. -/
def prettyMembers (depth : Nat) : List (Text × Json) → Text
  | [] => []
  | m :: members =>
    ',' :: newline depth ++ prettyMember depth m ++ prettyMembers depth members

end

/-- The pretty form of a value. -/
def pretty (j : Json) : Text := prettyAt 0 j

end Json

end C4Lint
