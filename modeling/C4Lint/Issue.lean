/-
# Issues

An issue is what the linter has to say about a line.  `Finding` lists the things that can be wrong
with a document, each with its severity and its wording; an `Issue` is the wording on a line.  Only
issues of the severity `Severity.error` make a document fail.
-/
import C4Lint.Architecture.Basic

namespace C4Lint

/-- How much an issue weighs. -/
inductive Severity where
  /-- The document fails. -/
  | error
  /-- The document passes, but something is likely to be wrong. -/
  | warning
  /-- Something worth knowing. -/
  | info
deriving DecidableEq, Repr

namespace Severity

/-- The severities in the order of a report. -/
def all : List Severity := [error, warning, info]

theorem mem_all (s : Severity) : s ∈ all := by
  cases s <;> simp [all]

end Severity

/-- An issue on a line of a document. -/
structure Issue where
  /-- How much the issue weighs. -/
  severity : Severity
  /-- The number of the line, or zero if the issue is about the file as a whole. -/
  line : Nat
  /-- What is wrong. -/
  message : Text
  /-- The line as it is written, if showing it helps. -/
  context : Option Text
deriving DecidableEq, Repr

/-- How many issues there are of each severity. -/
structure Tally where
  /-- The number of errors. -/
  errors : Nat
  /-- The number of warnings. -/
  warnings : Nat
  /-- The number of informative issues. -/
  info : Nat
deriving DecidableEq, Repr

/-- The number of all issues. -/
def Tally.total (t : Tally) : Nat := t.errors + t.warnings + t.info

namespace Issue

/-- The issues of one severity, in their order. -/
def withSeverity (s : Severity) (issues : List Issue) : List Issue :=
  issues.filter fun i => i.severity = s

/-- The number of issues of each severity. -/
def tally (issues : List Issue) : Tally where
  errors := issues.countP fun i => i.severity = .error
  warnings := issues.countP fun i => i.severity = .warning
  info := issues.countP fun i => i.severity = .info

/-- Whether none of the issues is an error. -/
def passes (issues : List Issue) : Bool := !issues.any fun i => i.severity = .error

end Issue

/-- What can be wrong with a document. -/
inductive Finding where
  /-- No workspace is declared anywhere in the text. -/
  | missingWorkspace
  /-- No model section is opened anywhere in the text. -/
  | missingModel
  /-- No views section is opened anywhere in the text. -/
  | missingViews
  /-- The numbers of opening and closing braces differ. -/
  | unbalancedBraces (braces : BraceCount)
  /-- A statement is meant as a declaration of the form, against its grammar. -/
  | malformed (f : Form)
  /-- A relationship names an element that no earlier statement declares. -/
  | undefinedBeforeUse (endpoint : Endpoint) (name : Text)
  /-- A relationship names an element that no statement declares. -/
  | neverDefined (name : Text)
  /-- An element takes part in no relationship. -/
  | unconnected (kind : ElementKind) (name : Text)
deriving DecidableEq, Repr

namespace Finding

/-- How much a finding weighs. -/
def severity : Finding → Severity
  | missingWorkspace => .error
  | missingModel => .error
  | missingViews => .warning
  | unbalancedBraces _ => .error
  | malformed _ => .error
  | undefinedBeforeUse _ _ => .warning
  | neverDefined _ => .error
  | unconnected _ _ => .info

/-- What is wrong with a statement that is meant as a declaration of the form, and what its grammar
asks for. -/
def malformedMessage : Form → Text
  | .workspace =>
    "Invalid workspace declaration syntax. Expected: workspace \"name\" \x7b".toList
  | .element .person =>
    ("Invalid person declaration syntax. Expected: name = person \"description\" " ++
      "[\"technology\"]").toList
  | .element .softwareSystem =>
    ("Invalid software system declaration syntax. Expected: name = softwareSystem " ++
      "\"description\" [\"technology\"] [\"tags\"]").toList
  | .element .container =>
    ("Invalid container declaration syntax. Expected: name = container " ++
      "\"description\" [\"technology\"] [\"tags\"]").toList
  | .relationship =>
    "Invalid relationship syntax. Expected: source -> destination [\"description\"]".toList
  | .view => "Invalid view declaration syntax. Expected: viewType elementName [\"title\"]".toList
  | .styles => "Invalid styles declaration syntax. Expected: styles \x7b".toList

/-- The end of a relationship at the beginning of a sentence. -/
def endpointTitle : Endpoint → Text
  | .source => "Source".toList
  | .destination => "Destination".toList

/-- The wording of a finding. -/
def message : Finding → Text
  | missingWorkspace => "Missing workspace declaration".toList
  | missingModel => "Missing model section".toList
  | missingViews => "Missing views section (recommended for visualization)".toList
  | unbalancedBraces braces =>
    "Unbalanced braces: ".toList ++ Text.decimal braces.opening ++ " opening, ".toList
      ++ Text.decimal braces.closing ++ " closing".toList
  | malformed f => malformedMessage f
  | undefinedBeforeUse endpoint name =>
    endpointTitle endpoint ++ " element '".toList ++ name ++ "' not defined before use".toList
  | neverDefined name =>
    "Element '".toList ++ name ++ "' is referenced by a relationship but never defined".toList
  | unconnected kind name =>
    kind.title ++ " '".toList ++ name ++ "' is not used in any relationship".toList

/-- The issue that a finding is on a line. -/
def issue (f : Finding) (line : Nat) (context : Option Text) : Issue :=
  ⟨f.severity, line, f.message, context⟩

@[simp] theorem severity_issue (f : Finding) (line : Nat) (context : Option Text) :
    (f.issue line context).severity = f.severity := rfl

@[simp] theorem line_issue (f : Finding) (line : Nat) (context : Option Text) :
    (f.issue line context).line = line := rfl

@[simp] theorem message_issue (f : Finding) (line : Nat) (context : Option Text) :
    (f.issue line context).message = f.message := rfl

@[simp] theorem context_issue (f : Finding) (line : Nat) (context : Option Text) :
    (f.issue line context).context = context := rfl

end Finding

end C4Lint
