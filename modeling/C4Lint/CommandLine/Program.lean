/-
# What the program does

From the arguments of the command line to the text on standard output and the exit status.  Between
the two lies only the reading of the file, so the program is a `Plan`, which says either how it ends
or which file it needs, and `Config.conclude`, which says how it ends with that file.

The program keeps a log of what it does with the file (`Config.records`), of which the level of the
log says how much is shown (`Config.logLines`).  More detail only adds lines, by
`Config.logLines_sublist`.
-/
import C4Lint.CommandLine.Draft
import C4Lint.Report
import C4Lint.Storage.Failure

namespace C4Lint

/-- What the program is to do, once all values have been judged. -/
structure Config where
  /-- The path of the file. -/
  file : Text
  /-- How the report is written. -/
  format : Format
  /-- What the validation is asked to do. -/
  options : Options
  /-- How much detail the log has. -/
  logLevel : LogLevel
deriving DecidableEq, Repr

/-- What can be wrong with arguments that follow the rules of the command line. -/
inductive ConfigError where
  /-- No level of the log has the given name. -/
  | unknownLogLevel (given : Text)
deriving DecidableEq, Repr

/-- The wording of the error. -/
def ConfigError.message : ConfigError → Text
  | .unknownLogLevel given =>
    "Unknown log level '".toList ++ given ++ "', expected one of: ".toList
      ++ ", ".toList.intercalate (LogLevel.all.map LogLevel.name)

/-- The configuration that arguments ask for.  The case of ASCII letters in the name of a level
does not matter. -/
def Config.ofArguments (a : Arguments) : Except ConfigError Config :=
  match LogLevel.ofName? (a.logLevel.map Char.toLower) with
  | none => .error (.unknownLogLevel a.logLevel)
  | some logLevel =>
    .ok
      { file := a.file
        format := a.format
        options :=
          { nesting := if a.nestedSections then .nested else .flat
            crossReferences := a.crossReferences }
        logLevel }

/-- How the program ends. -/
structure Outcome where
  /-- The text on standard output. -/
  output : Text
  /-- The text on standard error, apart from the log. -/
  errors : Text
  /-- The exit status. -/
  exitCode : Nat
deriving DecidableEq, Repr

/-- The help text. -/
def helpText : Text :=
  Text.unlines
    ["Validate C4 architecture model DSL files".toList,
     [],
     generalUsage,
     [],
     "Arguments:".toList,
     "  <FILE>  DSL file to validate".toList,
     [],
     "Options:".toList,
     ("      --format <FORMAT>        Report format [default: text] " ++
       "[possible values: text, json]").toList,
     ("      --nested-sections        Track brace depth so nested blocks do not end the " ++
       "model/views section").toList,
     ("      --cross-references       Report undefined relationship endpoints and unconnected " ++
       "elements at end of file").toList,
     ("      --log-level <LOG_LEVEL>  Log level (off, error, warn, info, debug, trace) " ++
       "[default: warn]").toList,
     "  -h, --help                   Print help".toList,
     "  -V, --version                Print version".toList]

/-- The name of the program and its version. -/
def versionText : Text := Text.unlines ["c4-validate 0.1.0".toList]

/-- The outcome when there is no file to validate. -/
def Halt.outcome : Halt → Outcome
  | .help => ⟨helpText, [], 0⟩
  | .version => ⟨versionText, [], 0⟩
  | .usage e => ⟨e.text, [], 1⟩

/-- The outcome of a configuration that cannot be met. -/
def ConfigError.outcome (e : ConfigError) : Outcome :=
  ⟨[], Text.unlines ["error: ".toList ++ e.message], 1⟩

/-- What is left to do once the command line has been read. -/
inductive Plan where
  /-- Nothing: the program ends so. -/
  | done (o : Outcome)
  /-- The file has to be read and validated. -/
  | validate (c : Config)
deriving DecidableEq, Repr

/-- The plan for the arguments of a command line. -/
def Plan.ofArguments (arguments : List Text) : Plan :=
  match Arguments.ofList arguments with
  | .error h => .done h.outcome
  | .ok a =>
    match Config.ofArguments a with
    | .error e => .done e.outcome
    | .ok c => .validate c

namespace Validation

/-- The validation of the document at a path, as reading it turned out. -/
def ofReading (options : Options) (path : Text) : Except ReadFailure Text → Validation
  | .ok content => ofDocument options content
  | .error f => ofFailure (f.message path)

end Validation

namespace Report

/-- The report in the given format, as the program prints it. -/
def printed (r : Report) : Format → Text
  | .text => r.text
  | .json => r.json ++ ['\n']

end Report

/-- A record of the log of the program. -/
inductive ProgramRecord where
  /-- The program turns to the file. -/
  | started (file : Text)
  /-- The file has been read, and it has so many bytes. -/
  | loaded (file : Text) (bytes : Nat)
  /-- The file cannot be read. -/
  | unread (file : Text) (f : ReadFailure)
  /-- The document of the file is validated. -/
  | validation (r : LogRecord)
deriving DecidableEq, Repr

namespace ProgramRecord

/-- The level at which a record appears. -/
def level : ProgramRecord → LogLevel
  | started _ => .info
  | loaded _ _ => .debug
  | unread _ _ => .warn
  | validation r => r.level

/-- The wording of a record. -/
def message : ProgramRecord → Text
  | started file => "Validating ".toList ++ file
  | loaded file bytes =>
    "Loaded ".toList ++ file ++ " (".toList ++ Text.decimal bytes ++ " bytes)".toList
  | unread file f => f.message file
  | validation r => r.message

/-- The record as a line of the log. -/
def line (r : ProgramRecord) : Text := r.level.name ++ ": ".toList ++ r.message

/-- Whether a log of the given level shows the record. -/
def isShownAt (l : LogLevel) (r : ProgramRecord) : Bool := r.level.detail ≤ l.detail

theorem isShownAt_of_le {l m : LogLevel} {r : ProgramRecord} (hr : r.isShownAt l = true)
    (h : l.detail ≤ m.detail) : r.isShownAt m = true :=
  decide_eq_true (Nat.le_trans (of_decide_eq_true hr) h)

/-- No record is shown when the log is off. -/
theorem isShownAt_off (r : ProgramRecord) : r.isShownAt .off = false := by
  have hpos : 0 < r.level.detail := by
    cases r with
    | validation r => cases r <;> exact Nat.succ_pos _
    | _ => exact Nat.succ_pos _
  exact decide_eq_false (Nat.not_le_of_gt hpos)

end ProgramRecord

namespace Config

/-- The outcome of the program, as reading the file turned out. -/
def conclude (c : Config) (content : Except ReadFailure Text) : Outcome :=
  let report : Report := ⟨c.file, Validation.ofReading c.options c.file content⟩
  ⟨report.printed c.format, [], report.exitCode⟩

/-- The records of the program, as reading the file turned out. -/
def records (c : Config) : Except ReadFailure Text → List ProgramRecord
  | .ok content =>
    .started c.file :: .loaded c.file content.byteLength
      :: (RunLog.ofDocument c.options content).map .validation
  | .error f => [.started c.file, .unread c.file f]

/-- The lines of the log that the configuration asks for, as reading the file turned out. -/
def logLines (c : Config) (content : Except ReadFailure Text) : List Text :=
  ((c.records content).filter (ProgramRecord.isShownAt c.logLevel)).map ProgramRecord.line

/-- A log of more detail holds the lines of one of less detail, in the same order. -/
theorem logLines_sublist (c : Config) {l m : LogLevel} (h : l.detail ≤ m.detail)
    (content : Except ReadFailure Text) :
    (logLines { c with logLevel := l } content).Sublist
      (logLines { c with logLevel := m } content) := by
  -- what the lesser level shows is chosen from what the greater one shows
  have hchosen : (c.records content).filter (ProgramRecord.isShownAt l)
      = ((c.records content).filter (ProgramRecord.isShownAt m)).filter
        (ProgramRecord.isShownAt l) := by
    rw [List.filter_filter]
    refine List.filter_congr fun r _ => ?_
    rw [Bool.eq_iff_iff, Bool.and_eq_true]
    exact ⟨fun hl => ⟨hl, ProgramRecord.isShownAt_of_le hl h⟩, And.left⟩
  have hshown : ((c.records content).filter (ProgramRecord.isShownAt l)).Sublist
      ((c.records content).filter (ProgramRecord.isShownAt m)) := by
    rw [hchosen]
    exact List.filter_sublist
  exact hshown.map ProgramRecord.line

/-- With the log off, nothing is written to it. -/
theorem logLines_off (c : Config) (content : Except ReadFailure Text) :
    logLines { c with logLevel := .off } content = [] := by
  rw [logLines, List.map_eq_nil_iff, List.filter_eq_nil_iff]
  intro r _
  rw [ProgramRecord.isShownAt_off]
  exact Bool.false_ne_true

end Config

end C4Lint
