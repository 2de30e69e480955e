/-
# Why a document cannot be read

A path may name nothing, or something that cannot be read as text.  The two are worded differently:
a missing file is named by its path, any other failure by its cause.
-/
import C4Lint.Text.Basic

namespace C4Lint

/-- Why the document at a path cannot be read. -/
inductive ReadFailure where
  /-- Nothing has the path. -/
  | notFound
  /-- The path holds the character that ends a path for the system. -/
  | nulInPath
  /-- The path or one of its names is longer than the system allows. -/
  | nameTooLong
  /-- The path leads through something that is not a directory. -/
  | notDirectory
  /-- The path names a directory. -/
  | isDirectory
  /-- The file may not be read. -/
  | permissionDenied
  /-- The bytes of the file are not UTF-8. -/
  | notUtf8
  /-- Any other failure, in the words of the system. -/
  | other (words : Text)
deriving DecidableEq, Repr

namespace ReadFailure

/-- The words of the system for a failure other than a missing file. -/
def cause : ReadFailure → Text
  | notFound => "No such file or directory (os error 2)".toList
  | nulInPath => "file name contained an unexpected NUL byte".toList
  | nameTooLong => "File name too long (os error 36)".toList
  | notDirectory => "Not a directory (os error 20)".toList
  | isDirectory => "Is a directory (os error 21)".toList
  | permissionDenied => "Permission denied (os error 13)".toList
  | notUtf8 => "stream did not contain valid UTF-8".toList
  | other words => words

/-- The wording of the failure to read the document at `path`. -/
def message (path : Text) (f : ReadFailure) : Text :=
  if f = notFound then "File not found: ".toList ++ path
  else "Error reading file: ".toList ++ f.cause

end ReadFailure

end C4Lint
