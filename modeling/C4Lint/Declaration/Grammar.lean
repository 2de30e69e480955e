/-
# The grammar of each declaration

Each form of declaration has a reader that accepts a statement by its beginning: once the required
tokens are there, a string argument is taken if it comes next and anything after it is left alone.
A string is an argument only when blanks precede it.
-/
import C4Lint.Declaration.Basic
import C4Lint.Token.Scan

namespace C4Lint.Declaration

/-- The string argument at the front of the tokens, if there is one. -/
def argument? : List Token → Option Text
  | ⟨.string body, true⟩ :: _ => some body
  | _ => none

/-- A workspace: the keyword, a name that is not empty, and the brace that opens its block. -/
def workspace? : List Token → Option Declaration
  | ⟨.name word, _⟩ :: ⟨.string name, true⟩ :: ⟨.openBrace, _⟩ :: _ =>
    if word = "workspace".toList ∧ name ≠ [] then some (.workspace name) else none
  | _ => none

/-- The tags of an element of the given kind, when the tokens begin with its technology. -/
def tags? (kind : ElementKind) : List Token → Option Text
  | ⟨.string _, true⟩ :: rest => if kind.acceptsTags then argument? rest else none
  | _ => none

/-- An element: an identifier, the equals sign, the keyword of its kind and a description that is
not empty; then a technology, and after it the tags where the kind has them. -/
def element? (kind : ElementKind) : List Token → Option Declaration
  | ⟨.name identifier, _⟩ :: ⟨.equals, _⟩ :: ⟨.name word, _⟩ :: ⟨.string description, true⟩
      :: rest =>
    if identifier.all Text.isWordChar ∧ word = kind.keyword ∧ description ≠ [] then
      some (.element kind identifier description (argument? rest) (tags? kind rest))
    else none
  | _ => none

/-- A relationship: two names with an arrow between them, then a description. -/
def relationship? : List Token → Option Declaration
  | ⟨.name source, _⟩ :: ⟨.arrow, _⟩ :: ⟨.name destination, _⟩ :: rest =>
    some (.relationship source destination (argument? rest))
  | _ => none

/-- A view: the keyword of its kind and the element it shows, then a title.  Of a dotted name only
the first word counts, and then there is no title. -/
def view? : List Token → Option Declaration
  | ⟨.name word, _⟩ :: ⟨.name target, true⟩ :: rest =>
    if (target.head?.map Text.isWordChar).getD false then
      (ViewKind.ofKeyword? word).map fun kind =>
        .view kind (target.takeWhile (· != '.'))
          (if target.contains '.' then none else argument? rest)
    else none
  | _ => none

/-- The styles: nothing but the keyword and the brace that opens its block. -/
def styles? (statement : Text) : Option Declaration :=
  if statement = "styles \x7b".toList then some .styles else none

end C4Lint.Declaration
