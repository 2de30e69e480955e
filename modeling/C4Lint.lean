/-
# C4Lint

A linter for architecture descriptions in workspace, model and views.  `C4Lint.Validation` checks a
document, `C4Lint.Report` renders what was found, and `C4Lint.CommandLine` is the program.
-/
import C4Lint.Architecture.Basic
import C4Lint.Architecture.External
import C4Lint.Architecture.Reference
import C4Lint.CommandLine.Argument
import C4Lint.CommandLine.Draft
import C4Lint.CommandLine.Parameter
import C4Lint.CommandLine.Program
import C4Lint.CommandLine.UsageError
import C4Lint.Declaration.Basic
import C4Lint.Declaration.Form
import C4Lint.Declaration.Grammar
import C4Lint.Entry
import C4Lint.Issue
import C4Lint.Json
import C4Lint.Main
import C4Lint.Outline
import C4Lint.Proofs.Architecture.Change
import C4Lint.Proofs.Architecture.External
import C4Lint.Proofs.Architecture.Recorded
import C4Lint.Proofs.Architecture.References
import C4Lint.Proofs.Blueprint.Basic
import C4Lint.Proofs.Blueprint.Layout
import C4Lint.Proofs.Declaration.Canonical
import C4Lint.Proofs.Declaration.Characters
import C4Lint.Proofs.Declaration.Dispatch
import C4Lint.Proofs.Declaration.Form
import C4Lint.Proofs.Declaration.Grammar
import C4Lint.Proofs.Declaration.Names
import C4Lint.Proofs.Declaration.Normal
import C4Lint.Proofs.Declaration.References
import C4Lint.Proofs.Declaration.Spelling
import C4Lint.Proofs.Entry.Contents
import C4Lint.Proofs.Entry.Issues
import C4Lint.Proofs.Firsts
import C4Lint.Proofs.Issue.Severity
import C4Lint.Proofs.Issue.Wording
import C4Lint.Proofs.Json.Grammar
import C4Lint.Proofs.Json.Pretty
import C4Lint.Proofs.Outline
import C4Lint.Proofs.Region.Balance
import C4Lint.Proofs.Region.Flat
import C4Lint.Proofs.Region.Inclusion
import C4Lint.Proofs.Region.Matching
import C4Lint.Proofs.Region.Nested
import C4Lint.Proofs.Region.Neutral
import C4Lint.Proofs.Region.Opening
import C4Lint.Proofs.Report.Agreement
import C4Lint.Proofs.Report.Json
import C4Lint.Proofs.Report.Text
import C4Lint.Proofs.RunLog.Result
import C4Lint.Proofs.RunLog.Wording
import C4Lint.Proofs.Statement.Append
import C4Lint.Proofs.Statement.Braces
import C4Lint.Proofs.Statement.Comment
import C4Lint.Proofs.Statement.Lines
import C4Lint.Proofs.Statement.Marker
import C4Lint.Proofs.Statement.Tidy
import C4Lint.Proofs.Text.Decimal
import C4Lint.Proofs.Text.Lines
import C4Lint.Proofs.Text.Lowercase
import C4Lint.Proofs.Text.Margin
import C4Lint.Proofs.Text.Occurrence
import C4Lint.Proofs.Text.Run
import C4Lint.Proofs.Text.Trim
import C4Lint.Proofs.Token.Block
import C4Lint.Proofs.Token.First
import C4Lint.Proofs.Token.Gaps
import C4Lint.Proofs.Token.Lexeme
import C4Lint.Proofs.Token.RoundTrip
import C4Lint.Proofs.Token.Spelling
import C4Lint.Proofs.Validation.Agreement
import C4Lint.Proofs.Validation.Comments
import C4Lint.Proofs.Validation.Consistency
import C4Lint.Proofs.Validation.Continuation
import C4Lint.Proofs.Validation.CrossReference
import C4Lint.Proofs.Validation.ForwardReference
import C4Lint.Proofs.Validation.Inclusion
import C4Lint.Proofs.Validation.Isolation
import C4Lint.Proofs.Validation.Issues
import C4Lint.Proofs.Validation.Malformed
import C4Lint.Proofs.Validation.Margin
import C4Lint.Proofs.Validation.Nesting
import C4Lint.Proofs.Validation.Outline
import C4Lint.Proofs.Validation.Placement
import C4Lint.Proofs.Validation.Recording
import C4Lint.Proofs.Validation.Verdict
import C4Lint.Proofs.Validation.WellFormed
import C4Lint.Region
import C4Lint.Report
import C4Lint.RunLog
import C4Lint.Statement
import C4Lint.Storage.Failure
import C4Lint.Storage.Path
import C4Lint.Text.Alphanumeric
import C4Lint.Text.Basic
import C4Lint.Text.Blank
import C4Lint.Text.Casing
import C4Lint.Text.Line
import C4Lint.Text.Lowercase
import C4Lint.Text.Ranges
import C4Lint.Text.Similarity
import C4Lint.Text.Visible
import C4Lint.Text.Word
import C4Lint.Token.Basic
import C4Lint.Token.Scan
import C4Lint.Validation
