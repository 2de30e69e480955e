/-
# Faults of a command line

Each fault is worded so that the user can mend it: what is wrong, what may have been meant, and a
line that shows how the program is called.  That line is in general terms as long as nothing has been
given; after that it names the options that have been given, because the user wants those.
-/
import C4Lint.CommandLine.Parameter
import C4Lint.Text.Line
import C4Lint.Text.Visible

namespace C4Lint

/-- What can be wrong with a command line. -/
inductive UsageError where
  /-- There is no path, and only these parameters are given. -/
  | missingFile (given : List Parameter)
  /-- A path comes after the first one. -/
  | extraPath (path : Text)
  /-- No option has the word that comes after two dashes.  These parameters are given before it. -/
  | unknownWord (word : Text) (given : List Parameter)
  /-- No option has the letter that comes after one dash. -/
  | unknownLetter (letter : Char)
  /-- An option without a value is given one.  These parameters are taken up before it. -/
  | unexpectedValue (o : CommandOption) (value : Text) (given : List Parameter)
  /-- A value is missing or empty. -/
  | missingValue (p : Parameter)
  /-- No format has the given name. -/
  | unknownFormat (value : Text)
  /-- An option is given twice. -/
  | repeated (o : CommandOption)
deriving DecidableEq, Repr

/-! ### The line that shows how the program is called -/

/-- The call of the program with the given parameters. -/
def usageLine (parameters : List Text) : Text :=
  "Usage: ".toList ++ " ".toList.intercalate ("c4-validate".toList :: parameters)

/-- The call of the program in general. -/
def generalUsage : Text := usageLine ["[OPTIONS]".toList, Parameter.file.usage]

/-- The call of the program with these options. -/
def usageWith (os : List CommandOption) : Text :=
  usageLine (os.map CommandOption.usage ++ [Parameter.file.usage])

/-- The call of the program with the options among these parameters, or in general if there are no
parameters. -/
def usageAfter (given : List Parameter) : Text :=
  if given.isEmpty then generalUsage else usageWith (given.filterMap Parameter.option?)

/-- The parameters of a validation as alternatives. -/
def alternatives : Text :=
  '<' :: "|".toList.intercalate (Parameter.ofValidation.map Parameter.usageInBrackets) ++ ['>']

/-- The call of the program with an option, when these parameters are given before it.  If there are
any, all parameters of a validation are shown. -/
def usageOfOption (o : CommandOption) (given : List Parameter) : Text :=
  if given.isEmpty then usageWith [o]
  else usageLine ((if o.isRequest then [o.usage] else []) ++ [alternatives])

namespace UsageError

/-- What is shown of a text of the user, in quotes. -/
def quoted (t : Text) : Text := '\'' :: Text.visible t ++ ['\'']

/-- The line on an argument that has no place. -/
def unexpectedLine (argument : Text) : Text :=
  "error: unexpected argument ".toList ++ quoted argument ++ " found".toList

/-- The line that tells how to pass something that looks like an option. -/
def escapeTip (argument : Text) : Text :=
  "  tip: to pass ".toList ++ quoted argument ++ " as a value, use ".toList
    ++ quoted ("-- ".toList ++ argument)

/-- The line that tells what may have been meant. -/
def similarTip (thing name : Text) : Text :=
  "  tip: a similar ".toList ++ thing ++ " exists: ".toList ++ quoted name

/-- The line that names the formats. -/
def formatLine : Text :=
  "  [possible values: ".toList ++ ", ".toList.intercalate (Format.all.map Format.name)
    ++ "]".toList

/-- The lines on a word that no option has.  An option that may have been meant counts as given. -/
def unknownWordLines (word : Text) (given : List Parameter) : List Text :=
  let argument := "--".toList ++ word
  match CommandOption.similarTo? word with
  | none => [unexpectedLine argument, [], escapeTip argument, [], usageAfter given]
  | some o =>
    [unexpectedLine argument, [], similarTip "argument".toList o.name, [],
     usageAfter (if given.contains (.option o) then given else given ++ [.option o])]

/-- The lines that say what is wrong. -/
def lines : UsageError → List Text
  | missingFile given =>
    ["error: the following required arguments were not provided:".toList,
     "  ".toList ++ Parameter.file.usage, [], usageWith (given.filterMap Parameter.option?)]
  | extraPath path => [unexpectedLine path, [], generalUsage]
  | unknownWord word given => unknownWordLines word given
  | unknownLetter letter =>
    [unexpectedLine ['-', letter], [], escapeTip ['-', letter], [], generalUsage]
  | unexpectedValue o value given =>
    ["error: unexpected value ".toList ++ quoted value ++ " for ".toList ++ quoted o.name
      ++ " found; no more were expected".toList, [], usageOfOption o given]
  | missingValue p =>
    ("error: a value is required for ".toList ++ quoted p.usage
        ++ " but none was supplied".toList)
      :: if p = .option (.setting .format) then [formatLine] else []
  | unknownFormat value =>
    ["error: invalid value ".toList ++ quoted value ++ " for ".toList
      ++ quoted (CommandOption.setting .format).usage, formatLine]
      ++ match Format.similarTo? value with
        | none => []
        | some f => [[], similarTip "value".toList f.name]
  | repeated o =>
    ["error: the argument ".toList ++ quoted o.usage ++ " cannot be used multiple times".toList,
     [], generalUsage]

/-- The text that says what is wrong and where to find help. -/
def text (e : UsageError) : Text :=
  Text.unlines (e.lines ++ [[], "For more information, try '--help'.".toList])

end UsageError

end C4Lint
