/-
# Validation of a document

The issues of a document come in three parts: those with its outline, those of its entries, each
judged by what the entries before it declare, and, if asked for, those that only the whole
architecture shows.  Nothing is kept from one document to the next.
-/
import C4Lint.Outline
import C4Lint.Architecture.Reference

namespace C4Lint

/-- What a validation is asked to do. -/
structure Options where
  /-- How the ends of sections are found. -/
  nesting : Nesting := .flat
  /-- Whether references are checked again at the end of the document. -/
  crossReferences : Bool := false
deriving DecidableEq, Repr

/-- What a validation found out about a document. -/
structure Validation where
  /-- The name of the workspace, if one is declared. -/
  workspace : Option Text
  /-- The issues, in the order in which they were found. -/
  issues : List Issue
  /-- The elements and relationships of the document. -/
  architecture : Architecture

namespace Entry

/-- The issues of an entry when `known` is the architecture that the entries before it describe. -/
def issues (known : Architecture) (e : Entry) : List Issue :=
  match e.reading with
  | .malformed f => [(Finding.malformed f).issue e.line (some e.statement.source)]
  | _ =>
    match Architecture.relationshipOf? e with
    | some r => (known.undefinedEnds r).map fun f => f.issue e.line (some e.statement.source)
    | none => []

/-- The issues of the entries that come after those which describe `known`. -/
def allIssues (known : Architecture) : List Entry → List Issue
  | [] => []
  | e :: es => e.issues known ++ allIssues (known.record e) es

/-- The name that the last of the entries to name the workspace gives to it. -/
def workspaceName? (es : List Entry) : Option Text := (es.filterMap workspace?).getLast?

end Entry

namespace Validation

/-- The validation of a document. -/
def ofDocument (options : Options) (content : Text) : Validation :=
  let entries := Entry.all options.nesting content
  let architecture := Architecture.ofEntries entries
  { workspace := Entry.workspaceName? entries
    issues := Outline.issues content ++ Entry.allIssues {} entries
      ++ if options.crossReferences then architecture.crossReferences else []
    architecture }

/-- The validation of a document that could not be read, for the reason given. -/
def ofFailure (message : Text) : Validation where
  workspace := none
  issues := [⟨.error, 0, message, none⟩]
  architecture := {}

/-- Whether the document passes. -/
def passed (v : Validation) : Bool := Issue.passes v.issues

end Validation

end C4Lint
