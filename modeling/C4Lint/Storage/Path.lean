/-
# Files and the paths that name them

A `FileTree` is what lies below a working directory.  A path is followed from name to name: every
name but the last must be that of a directory, an empty name or a single dot stays where it is, and
two dots go to the directory above.  Above the working directory nothing is known but directories.
-/
import C4Lint.Storage.Failure

namespace C4Lint

/-- What a path can name. -/
inductive FileItem where
  /-- A file with its bytes. -/
  | file (bytes : ByteArray)
  /-- A directory. -/
  | directory

/-- A file or directory in its place. -/
structure FileEntry where
  /-- The names that lead there from the working directory. -/
  place : List Text
  /-- What is there. -/
  item : FileItem

/-- The files and directories below a working directory.  The directories on the way to an entry
exist with it, and a later entry takes the place of an earlier one. -/
structure FileTree where
  /-- The entries, in the order in which they were laid out. -/
  entries : List FileEntry := []

/-- Where a path has led so far. -/
inductive FilePlace where
  /-- Below the working directory, by these names. -/
  | within (names : List Text)
  /-- In a directory above the working directory. -/
  | above
deriving DecidableEq, Repr

namespace FileTree

/-- The names that a path is made of. -/
def namesOf (path : Text) : List Text := path.splitOn '/'

/-- Lays an item out at a path, where empty names and single dots in the path count for nothing. -/
def layOut (t : FileTree) (path : Text) (item : FileItem) : FileTree :=
  ⟨t.entries ++ [⟨(namesOf path).filter fun n => !n.isEmpty && n != ['.'], item⟩]⟩

/-- What the names lead to from the working directory. -/
def itemAt? (t : FileTree) (names : List Text) : Option FileItem :=
  match t.entries.reverse.find? fun e => e.place == names with
  | some e => some e.item
  | none =>
    if names.isEmpty || t.entries.any fun e => names.isPrefixOf e.place then some .directory
    else none

/-- What is at a place. -/
def itemIn? (t : FileTree) : FilePlace → Option FileItem
  | .within names => t.itemAt? names
  | .above => some .directory

/-- The place that one more name leads to. -/
def step (t : FileTree) (place : FilePlace) (name : Text) : Except ReadFailure FilePlace :=
  match t.itemIn? place with
  | none => .error .notFound
  | some (.file _) => .error .notDirectory
  | some .directory =>
    if name = [] ∨ name = ['.'] then .ok place
    else
      match place with
      | .above =>
        if name = ['.', '.'] then .ok .above
        else if 255 < name.byteLength then .error .nameTooLong
        else .error .notFound
      | .within names =>
        if name = ['.', '.'] then
          .ok (if names.isEmpty then .above else .within names.dropLast)
        else if 255 < name.byteLength then .error .nameTooLong
        else if (t.itemAt? (names ++ [name])).isSome then .ok (.within (names ++ [name]))
        else .error .notFound

/-- The place that the names of a path lead to. -/
def walk (t : FileTree) (place : FilePlace) : List Text → Except ReadFailure FilePlace
  | [] => .ok place
  | n :: ns =>
    match t.step place n with
    | .error f => .error f
    | .ok next => t.walk next ns

/-- The place that a path leads to. -/
def placeOf (t : FileTree) (path : Text) : Except ReadFailure FilePlace :=
  if path.contains '\x00' then .error .nulInPath
  else if path.isEmpty then .error .notFound
  else if 4096 ≤ path.byteLength then .error .nameTooLong
  else t.walk (if path.head? = some '/' then .above else .within []) (namesOf path)

/-- The text that the bytes of a file encode. -/
def decode (bytes : ByteArray) : Except ReadFailure Text :=
  match String.fromUTF8? bytes with
  | some s => .ok s.toList
  | none => .error .notUtf8

/-- The text of the file that a path names. -/
def read (t : FileTree) (path : Text) : Except ReadFailure Text :=
  match t.placeOf path with
  | .error f => .error f
  | .ok place =>
    match t.itemIn? place with
    | none => .error .notFound
    | some .directory => .error .isDirectory
    | some (.file bytes) => decode bytes

end FileTree

end C4Lint
