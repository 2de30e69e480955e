/-
# Reports

A report shows the outcome of a validation, as text for a reader or as JSON for a program.  The text
groups the issues by severity and keeps their order within a group; the JSON lists them in the order
in which they were found.
-/
import C4Lint.Json
import C4Lint.Validation

namespace C4Lint

/-- The outcome of a validation together with the file it is about. -/
structure Report where
  /-- The path of the file, as it was given. -/
  file : Text
  /-- The outcome. -/
  validation : Validation

namespace Report

/-- The issues that the report shows. -/
def issues (r : Report) : List Issue := r.validation.issues

/-- Whether the document passes. -/
def passed (r : Report) : Bool := r.validation.passed

/-- The exit status of a program that shows the report: zero if the document passes. -/
def exitCode (r : Report) : Nat := if r.passed then 0 else 1

/-- What the report is about: the workspace, or the file if no workspace is declared. -/
def title (r : Report) : Text := r.validation.workspace.getD r.file

/-! ### The text -/

/-- The heading of the issues of one severity. -/
def label : Severity → Text
  | .error => "ERRORS".toList
  | .warning => "WARNINGS".toList
  | .info => "INFO".toList

/-- The lines that show an issue. -/
def issueLines (i : Issue) : List Text :=
  ("  Line ".toList ++ Text.decimal i.line ++ ": ".toList ++ i.message)
    :: (i.context.map fun c => "    Context: ".toList ++ c).toList

/-- The lines that show the issues of one severity, none if there is no such issue. -/
def groupLines (issues : List Issue) (s : Severity) : List Text :=
  let group := Issue.withSeverity s issues
  if group.isEmpty then []
  else
    [] :: (label s ++ " (".toList ++ Text.decimal group.length ++ "):".toList)
      :: group.flatMap issueLines

/-- The line that counts the issues. -/
def summaryLine (t : Tally) : Text :=
  "Summary: ".toList ++ Text.decimal t.errors ++ " errors, ".toList
    ++ Text.decimal t.warnings ++ " warnings, ".toList
    ++ Text.decimal t.info ++ " info messages".toList

/-- The last line of a report that shows issues. -/
def verdictLine (passed : Bool) : Text :=
  if passed then "Validation completed with warnings/info only.".toList
  else "Validation failed!".toList

/-- The only line of a report without issues. -/
def banner : Text := "C4 model DSL validation passed!".toList

/-- The lines of a report that shows issues. -/
def issueReport (r : Report) : List Text :=
  ("C4 Model DSL Validation Report for: ".toList ++ r.title) :: List.replicate 60 '='
    :: Severity.all.flatMap (groupLines r.issues)
      ++ [[], summaryLine (Issue.tally r.issues), [], verdictLine r.passed]

/-- The report as text. -/
def text (r : Report) : Text :=
  Text.unlines (if r.issues.isEmpty then [banner] else r.issueReport)

/-! ### The JSON -/

/-- The name of a severity. -/
def severityName : Severity → Text
  | .error => "ERROR".toList
  | .warning => "WARNING".toList
  | .info => "INFO".toList

/-- An issue as a JSON object.  Only an issue that has a context has a member for it. -/
def issueValue (i : Issue) : Json :=
  .object
    ([("severity".toList, .string (severityName i.severity)),
      ("line".toList, .number i.line),
      ("message".toList, .string i.message)]
      ++ (i.context.map fun c => ("context".toList, Json.string c)).toList)

/-- The numbers of issues as a JSON object. -/
def tallyValue (t : Tally) : Json :=
  .object
    [("errors".toList, .number t.errors), ("warnings".toList, .number t.warnings),
     ("info".toList, .number t.info)]

/-- The report as a JSON object. -/
def value (r : Report) : Json :=
  .object
    [("file".toList, .string r.file),
     ("workspace".toList, (r.validation.workspace.map Json.string).getD .null),
     ("passed".toList, .bool r.passed),
     ("summary".toList, tallyValue (Issue.tally r.issues)),
     ("issues".toList, .array (r.issues.map issueValue))]

/-- The report as JSON text. -/
def json (r : Report) : Text := r.value.pretty

end Report

end C4Lint
