/-
# The command line program

Reads the arguments and the file, and leaves everything else to `C4Lint.CommandLine.Program`.
-/
import C4Lint.CommandLine.Program

namespace C4Lint

/-- What an error of the system says about reading a document.  Some errors come with their number,
others with its negative. -/
def ReadFailure.ofError : IO.Error → ReadFailure
  | .noFileOrDirectory .. => .notFound
  | e@(.inappropriateType _ code _) =>
    if code = 20 ∨ code = -20 then .notDirectory
    else if code = 21 ∨ code = -21 then .isDirectory
    else .other (toString e).toList
  | e@(.invalidArgument _ code _) =>
    if code = 36 ∨ code = -36 then .nameTooLong else .other (toString e).toList
  | e@(.permissionDenied _ code _) =>
    if code = 13 ∨ code = -13 then .permissionDenied else .other (toString e).toList
  | e => .other (toString e).toList

/-- Reads the text of the file at a path. -/
def readText (path : Text) : IO (Except ReadFailure Text) := do
  if path.contains '\x00' then return .error .nulInPath
  try
    match String.fromUTF8? (← IO.FS.readBinFile (String.ofList path)) with
    | some s => return .ok s.toList
    | none => return .error .notUtf8
  catch e => return .error (.ofError e)

/-- Prints how the program ends and returns its exit status. -/
def Outcome.print (o : Outcome) : IO UInt32 := do
  IO.eprint (String.ofList o.errors)
  IO.print (String.ofList o.output)
  return UInt32.ofNat o.exitCode

/-- Carries out the plan for the arguments. -/
def runProgram (arguments : List Text) : IO UInt32 := do
  match Plan.ofArguments arguments with
  | .done o => o.print
  | .validate c =>
    let content ← readText c.file
    for line in c.logLines content do
      IO.eprintln (String.ofList line)
    (c.conclude content).print

end C4Lint

/-- Validates the file that the arguments name and prints its report. -/
def main (arguments : List String) : IO UInt32 :=
  C4Lint.runProgram (arguments.map String.toList)
