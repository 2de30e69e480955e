/-
# Reading a command line

Options may stand on either side of the path, and each at most once; after `--` every argument is a
path.  Arguments are taken up from left to right and the first fault ends it.  A path or value is
judged only when the argument after it is taken up, so a fault in that argument's own form comes
first.

`Draft` is what is known after some of the arguments, and `Arguments.ofList` reads them all.
-/
import C4Lint.CommandLine.Argument
import C4Lint.RunLog

namespace C4Lint

/-- How reading the command line can end without a file to validate. -/
inductive Halt where
  /-- The help text is asked for. -/
  | help
  /-- The version is asked for. -/
  | version
  /-- The command line is at fault. -/
  | usage (e : UsageError)
deriving DecidableEq, Repr

/-- What a command line asks for. -/
structure Arguments where
  /-- The path of the file. -/
  file : Text
  /-- How the report is written. -/
  format : Format
  /-- Whether blocks may be nested in sections. -/
  nestedSections : Bool
  /-- Whether references are checked again at the end. -/
  crossReferences : Bool
  /-- The name of the level of the log, not judged yet. -/
  logLevel : Text
deriving DecidableEq, Repr

/-- A path or value that has been read and not been judged. -/
inductive Pending where
  /-- There is none. -/
  | nothing
  /-- The path of the file. -/
  | file (path : Text)
  /-- A setting, with its value if that has come. -/
  | setting (s : Setting) (value : Option Text)
deriving DecidableEq, Repr

/-- What is known of a command line after some of its arguments.  What is not given has a default. -/
structure Draft where
  /-- The parameters that have been given, in their order. -/
  given : List Parameter := []
  /-- The path of the file. -/
  file : Option Text := none
  /-- How the report is written. -/
  format : Format := .text
  /-- The name of the level of the log. -/
  logLevel : Text := LogLevel.warn.name
  /-- What is to be judged next. -/
  pending : Pending := .nothing
deriving DecidableEq, Repr

namespace Draft

/-- Whether an option has been given. -/
def has (d : Draft) (o : CommandOption) : Bool := d.given.contains (.option o)

/-- The draft with one more parameter given. -/
def give (d : Draft) (p : Parameter) : Draft := { d with given := d.given ++ [p] }

/-- Takes a setting into the draft. -/
def set (d : Draft) (s : Setting) (value : Text) : Except Halt Draft :=
  if d.has (.setting s) then .error (.usage (.repeated (.setting s)))
  else
    match s with
    | .format =>
      if value.isEmpty then .error (.usage (.missingValue (.option (.setting s))))
      else
        match Format.ofName? value with
        | some format => .ok { d.give (.option (.setting s)) with format }
        | none => .error (.usage (.unknownFormat value))
    | .logLevel => .ok { d.give (.option (.setting s)) with logLevel := value }

/-- Judges what is pending. -/
def settle (d : Draft) : Except Halt Draft :=
  match d.pending with
  | .nothing => .ok d
  | .file path =>
    if path.isEmpty then .error (.usage (.missingValue .file))
    else .ok { d.give .file with file := some path, pending := .nothing }
  | .setting s none => .error (.usage (.missingValue (.option (.setting s))))
  | .setting s (some value) => { d with pending := .nothing }.set s value

/-- The parameters that count as given when a fault keeps what is pending from being judged: also the
pending path or setting, good or bad.  A setting without its value does not count, and one that is
pending for the second time does not count any longer. -/
def givenByNow (d : Draft) : List Parameter :=
  match d.pending with
  | .nothing => d.given
  | .file _ => d.given ++ [.file]
  | .setting _ none => d.given
  | .setting s (some _) =>
    if d.has (.setting s) then d.given.erase (.option (.setting s))
    else d.given ++ [.option (.setting s)]

/-- Whether a path has been read. -/
def hasFile (d : Draft) : Bool :=
  match d.pending with
  | .file _ => true
  | _ => d.file.isSome

/-- Takes up an argument as a path. -/
def addFile (d : Draft) (path : Text) : Except Halt Draft :=
  if d.hasFile then .error (.usage (.extraPath path))
  else
    match d.settle with
    | .error h => .error h
    | .ok d => .ok { d with pending := .file path }

/-- Takes up an option that has no value in the same argument, once nothing is pending. -/
def addBare (d : Draft) (o : CommandOption) : Except Halt Draft :=
  match o with
  | .setting s => .ok { d with pending := .setting s none }
  | .switch _ => if d.has o then .error (.usage (.repeated o)) else .ok (d.give (.option o))
  | .help => .error .help
  | .version => .error .version

/-- Takes up an option. -/
def addOption (d : Draft) (o : CommandOption) (value : Option Text) : Except Halt Draft :=
  match o, value with
  | .setting s, some value =>
    match d.settle with
    | .error h => .error h
    | .ok d => d.set s value
  | o, some value => .error (.usage (.unexpectedValue o value d.given))
  | o, none =>
    match d.settle with
    | .error h => .error h
    | .ok d => d.addBare o

/-- Takes up an argument that is not the mark for the end of the options. -/
def add (d : Draft) (a : Argument) : Except Halt Draft :=
  match a with
  | .option o value => d.addOption o value
  | .unknownWord word => .error (.usage (.unknownWord word d.givenByNow))
  | .unknownLetter letter => .error (.usage (.unknownLetter letter))
  | .endOfOptions => .ok d
  | .plain t =>
    match d.pending with
    | .setting s none => .ok { d with pending := .setting s (some t) }
    | _ => d.addFile t

/-- Takes up arguments that are all paths. -/
def addFiles (d : Draft) : List Text → Except Halt Draft
  | [] => .ok d
  | t :: ts =>
    match d.addFile t with
    | .error h => .error h
    | .ok d => d.addFiles ts

/-- Takes up the arguments of a command line. -/
def addAll (d : Draft) : List Text → Except Halt Draft
  | [] => .ok d
  | t :: ts =>
    match Argument.ofText t with
    | .endOfOptions => d.addFiles ts
    | a =>
      match d.add a with
      | .error h => .error h
      | .ok d => d.addAll ts

/-- What a draft asks for when no argument is left. -/
def finish (d : Draft) : Except Halt Arguments :=
  match d.settle with
  | .error h => .error h
  | .ok d =>
    match d.file with
    | none => .error (.usage (.missingFile d.given))
    | some file =>
      .ok
        { file
          format := d.format
          nestedSections := d.has (.switch .nestedSections)
          crossReferences := d.has (.switch .crossReferences)
          logLevel := d.logLevel }

end Draft

/-- What the arguments of a command line ask for. -/
def Arguments.ofList (arguments : List Text) : Except Halt Arguments :=
  match ({} : Draft).addAll arguments with
  | .error h => .error h
  | .ok d => d.finish

end C4Lint
