/-
# The log of a validation

While a document is validated, a log tells what happens to each statement: the region it belongs to,
what is made of it, and at the end what was found.  `RunLog.ofDocument` gives the records in the
order in which they are written.
-/
import C4Lint.Validation

namespace C4Lint

/-- How much detail a log has. -/
inductive LogLevel where
  /-- No log at all. -/
  | off
  /-- Only what makes the program fail. -/
  | error
  /-- Also what is likely to be wrong. -/
  | warn
  /-- Also the outcome of each document. -/
  | info
  /-- Also what is made of the statements. -/
  | debug
  /-- Also every statement. -/
  | trace
deriving DecidableEq, Repr

namespace LogLevel

/-- The levels, from the least detail to the most. -/
def all : List LogLevel := [off, error, warn, info, debug, trace]

/-- The name of a level. -/
def name : LogLevel → Text
  | off => "off".toList
  | error => "error".toList
  | warn => "warn".toList
  | info => "info".toList
  | debug => "debug".toList
  | trace => "trace".toList

/-- The level of the given name. -/
def ofName? (name : Text) : Option LogLevel := all.find? fun l => l.name = name

/-- How many levels a log of this detail shows. -/
def detail : LogLevel → Nat
  | off => 0
  | error => 1
  | warn => 2
  | info => 3
  | debug => 4
  | trace => 5

end LogLevel

/-- A record of the log. -/
inductive LogRecord where
  /-- The document leaves one region for another. -/
  | moved (before after : Region)
  /-- A statement is taken up. -/
  | read (line : Nat) (region : Region) (statement : Text)
  /-- The workspace gets a name. -/
  | named (workspace : Text)
  /-- An element is declared under a name that is taken. -/
  | redeclared (name : Text) (line : Nat)
  /-- A statement is against the grammar of its form. -/
  | malformed (line : Nat) (f : Form)
  /-- The document has been validated. -/
  | finished (elements relationships : Nat) (issues : Tally)
deriving DecidableEq, Repr

namespace LogRecord

/-- The level at which a record appears. -/
def level : LogRecord → LogLevel
  | moved _ _ => .debug
  | read _ _ _ => .trace
  | named _ => .debug
  | redeclared _ _ => .debug
  | malformed _ _ => .debug
  | finished _ _ _ => .info

/-- The name of a region in the log. -/
def regionName : Region → Text
  | .outside => "None".toList
  | .model => "Model".toList
  | .views => "Views".toList

/-- The name of a form in the log. -/
def formName : Form → Text
  | .workspace => "Workspace".toList
  | .element .person => "Element(Person)".toList
  | .element .softwareSystem => "Element(SoftwareSystem)".toList
  | .element .container => "Element(Container)".toList
  | .relationship => "Relationship".toList
  | .view => "View".toList
  | .styles => "Styles".toList

/-- The wording of a record. -/
def message : LogRecord → Text
  | moved before after =>
    "Section ".toList ++ regionName before ++ " -> ".toList ++ regionName after
  | read line region statement =>
    (Text.decimal line).leftpad 4 ' ' ++ ' ' :: regionName region ++ ": ".toList ++ statement
  | named workspace => "Workspace '".toList ++ workspace ++ "'".toList
  | redeclared name line =>
    "Element '".toList ++ name ++ "' redeclared on line ".toList ++ Text.decimal line
  | malformed line f =>
    "Line ".toList ++ Text.decimal line ++ ": malformed ".toList ++ formName f
  | finished elements relationships issues =>
    "Validated ".toList ++ Text.decimal elements ++ " elements, ".toList
      ++ Text.decimal relationships ++ " relationships: ".toList
      ++ Text.decimal issues.errors ++ " errors, ".toList
      ++ Text.decimal issues.warnings ++ " warnings, ".toList
      ++ Text.decimal issues.info ++ " info".toList

end LogRecord

namespace RunLog

/-- What is made of an entry when `known` is the architecture that the entries before it describe. -/
def outcome (known : Architecture) (e : Entry) : List LogRecord :=
  match e.reading with
  | .malformed f => [.malformed e.line f]
  | .declared (.workspace name) => [.named name]
  | .declared (.element _ identifier _ _ _) =>
    if known.declares identifier then [.redeclared identifier e.line] else []
  | _ => []

/-- The records of an entry that comes after one in the region `before`. -/
def ofEntry (before : Region) (known : Architecture) (e : Entry) : List LogRecord :=
  (if before = e.region then [] else [.moved before e.region])
    ++ .read e.line e.region e.statement.text :: outcome known e

/-- The records of the entries that come after one in the region `before`. -/
def ofEntries (before : Region) (known : Architecture) : List Entry → List LogRecord
  | [] => []
  | e :: es => ofEntry before known e ++ ofEntries e.region (known.record e) es

/-- The last record of a validation. -/
def summary (v : Validation) : LogRecord :=
  .finished v.architecture.elements.size v.architecture.relationships.size (Issue.tally v.issues)

/-- The records of the validation of a document. -/
def ofDocument (options : Options) (content : Text) : List LogRecord :=
  ofEntries .outside {} (Entry.all options.nesting content)
    ++ [summary (Validation.ofDocument options content)]

end RunLog

end C4Lint
