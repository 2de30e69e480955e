/-
# The outline of a document

Whatever its statements say, a document has to declare a workspace, open a model section and close
as many blocks as it opens, and it should open a views section.  These checks search the whole text,
strings and comments included, so that a badly broken document still gets its first findings.
Blanks in what is searched for may span lines.
-/
import C4Lint.Issue

namespace C4Lint.Outline

/-- The braces of a text, wherever they stand. -/
def braces (content : Text) : BraceCount where
  opening := content.count '{'
  closing := content.count '}'

/-- Whether a text begins with an opening brace after blanks. -/
def beginsBlock (t : Text) : Bool := (Text.trimStart t).head? == some '{'

/-- Whether a text begins with the given word and then opens a block. -/
def beginsSection (word t : Text) : Bool := ((Text.after? word t).map beginsBlock).getD false

/-- Whether a character may stand in the name of a workspace. -/
def isNamingChar (c : Char) : Bool := c != '"' && c != '\n'

/-- Whether a text begins with a name in quotes, not empty and on one line, and then opens a
block. -/
def beginsNamedBlock : Text → Bool
  | '"' :: t =>
    match t.dropWhile isNamingChar with
    | '"' :: rest => t.head? != some '"' && beginsBlock rest
    | _ => false
  | _ => false

/-- Whether a text begins with the declaration of a workspace. -/
def beginsWorkspace (t : Text) : Bool :=
  match Text.after? "workspace".toList t with
  | some (c :: rest) => Text.isBlank c && beginsNamedBlock (Text.trimStart rest)
  | _ => false

/-- Whether a workspace is declared anywhere in the text. -/
def hasWorkspace (content : Text) : Bool := Text.someTail beginsWorkspace content

/-- Whether a section of the given name is opened anywhere in the text. -/
def hasSection (word content : Text) : Bool := Text.someTail (beginsSection word) content

/-- What the outline of a document lacks. -/
def findings (content : Text) : List Finding :=
  (if hasWorkspace content then [] else [.missingWorkspace])
    ++ (if hasSection "model".toList content then [] else [.missingModel])
    ++ (if hasSection "views".toList content then [] else [.missingViews])
    ++ (if (braces content).opening = (braces content).closing then []
        else [.unbalancedBraces (braces content)])

/-- The issues with the outline of a document, all of them on its first line. -/
def issues (content : Text) : List Issue := (findings content).map fun f => f.issue 1 none

end C4Lint.Outline
