/-
# Parameters of the command line

What a command line may give: the path of one file, two settings with a value, two switches, and the
requests for the help text and the version.
-/
import C4Lint.Text.Similarity

namespace C4Lint

/-- How a report is written. -/
inductive Format where
  /-- As text. -/
  | text
  /-- As JSON. -/
  | json
deriving DecidableEq, Repr

namespace Format

/-- The formats. -/
def all : List Format := [text, json]

/-- The name of a format. -/
def name : Format → Text
  | text => "text".toList
  | json => "json".toList

/-- The format of the given name. -/
def ofName? (name : Text) : Option Format := all.find? fun f => f.name = name

/-- The format that a name similar to its own may be meant for. -/
def similarTo? (name : Text) : Option Format := Text.mostSimilar? Format.name name all

end Format

/-- The options that have a value. -/
inductive Setting where
  /-- How the report is written. -/
  | format
  /-- How much detail the log has. -/
  | logLevel
deriving DecidableEq, Repr

/-- The options that are there or not. -/
inductive Switch where
  /-- Whether blocks may be nested in sections. -/
  | nestedSections
  /-- Whether references are checked again at the end. -/
  | crossReferences
deriving DecidableEq, Repr

/-- An option of the command line. -/
inductive CommandOption where
  /-- A setting. -/
  | setting (s : Setting)
  /-- A switch. -/
  | switch (s : Switch)
  /-- A request for the help text. -/
  | help
  /-- A request for the version. -/
  | version
deriving DecidableEq, Repr

namespace CommandOption

/-- The options, in the order of the help text. -/
def all : List CommandOption :=
  [setting .format, switch .nestedSections, switch .crossReferences, setting .logLevel, help, version]

/-- The name of an option without the dashes before it. -/
def word : CommandOption → Text
  | setting .format => "format".toList
  | setting .logLevel => "log-level".toList
  | switch .nestedSections => "nested-sections".toList
  | switch .crossReferences => "cross-references".toList
  | help => "help".toList
  | version => "version".toList

/-- The name of an option, as it is given. -/
def name (o : CommandOption) : Text := "--".toList ++ o.word

/-- How an option is given, with a name for its value if it has one. -/
def usage : CommandOption → Text
  | setting .format => (setting .format).name ++ " <FORMAT>".toList
  | setting .logLevel => (setting .logLevel).name ++ " <LOG_LEVEL>".toList
  | o => o.name

/-- Whether an option asks for a text about the program instead of a validation. -/
def isRequest : CommandOption → Bool
  | help => true
  | version => true
  | _ => false

/-- The option of the given word. -/
def ofWord? (word : Text) : Option CommandOption := all.find? fun o => o.word = word

/-- The option that a word similar to its own may be meant for. -/
def similarTo? (word : Text) : Option CommandOption := Text.mostSimilar? CommandOption.word word all

theorem mem_all (o : CommandOption) : o ∈ all := by
  cases o with
  | setting s => cases s <;> simp [all]
  | switch s => cases s <;> simp [all]
  | _ => simp [all]

theorem ofWord?_eq_some_iff {word : Text} {o : CommandOption} :
    ofWord? word = some o ↔ word = o.word := by
  constructor
  · intro h
    have := List.find?_some h
    simpa [eq_comm] using this
  · rintro rfl
    cases o with
    | setting s => cases s <;> decide
    | switch s => cases s <;> decide
    | _ => decide

end CommandOption

/-- What an argument of the command line stands for. -/
inductive Parameter where
  /-- The path of the file. -/
  | file
  /-- An option. -/
  | option (o : CommandOption)
deriving DecidableEq, Repr

namespace Parameter

/-- The parameters of a validation: the file and the options that are not requests. -/
def ofValidation : List Parameter :=
  file :: (CommandOption.all.filter fun o => !o.isRequest).map option

/-- How a parameter is given. -/
def usage : Parameter → Text
  | file => "<FILE>".toList
  | option o => o.usage

/-- How a parameter is given as one of several between angle brackets. -/
def usageInBrackets : Parameter → Text
  | file => "FILE".toList
  | option o => o.usage

/-- The option that a parameter is. -/
def option? : Parameter → Option CommandOption
  | file => none
  | option o => some o

end Parameter

end C4Lint
