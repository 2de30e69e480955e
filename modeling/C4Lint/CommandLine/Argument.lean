/-
# Arguments of the command line

What an argument is by its own form.  A setting may have its value in the same argument, after an
equals sign, or in the next one; the requests also have a short form of one letter.
-/
import C4Lint.CommandLine.UsageError

namespace C4Lint

/-- What an argument is by its own form. -/
inductive Argument where
  /-- An option, with its value if that stands in the same argument. -/
  | option (o : CommandOption) (value : Option Text)
  /-- Two dashes with a word that no option has. -/
  | unknownWord (word : Text)
  /-- A dash with a letter that no option has. -/
  | unknownLetter (letter : Char)
  /-- The mark after which every argument is a path. -/
  | endOfOptions
  /-- A path or a value. -/
  | plain (text : Text)
deriving DecidableEq, Repr

namespace Argument

/-- The option of a word that stands after two dashes, with the value in the same argument. -/
def ofWord (word : Text) (value : Option Text) : Argument :=
  match CommandOption.ofWord? word with
  | some o => option o value
  | none => unknownWord word

/-- What an argument of two dashes is when the text `t` comes after them. -/
def ofTextAfterDashes (t : Text) : Argument :=
  if t.isEmpty then endOfOptions
  else
    match t.dropWhile (· != '=') with
    | [] => ofWord t none
    | _ :: value => ofWord (t.takeWhile (· != '=')) (some value)

/-- The option of a letter that stands after a single dash. -/
def ofLetter (c : Char) : Argument :=
  if c = 'h' then option .help none
  else if c = 'V' then option .version none
  else unknownLetter c

/-- What an argument is.  Of a group of letters only the first counts, because each of them ends the
reading of the command line. -/
def ofText : Text → Argument
  | '-' :: '-' :: t => ofTextAfterDashes t
  | '-' :: c :: _ => ofLetter c
  | t => plain t

end Argument

end C4Lint
