import WireSchemas.Text.Utf8

/-!
# Files by name

A program sees files through `Files`, which says of every path what it leads to.  What can go
wrong is a `FileProblem` with the text and number that the operating system gives it.
-/

namespace WireSchemas

/-- Why a file cannot be read or written. -/
inductive FileProblem where
  | missing
  /-- A directory of the path is no directory. -/
  | notDirectory
  /-- The file itself is a directory. -/
  | isDirectory
  | nameTooLong
  | denied
  /-- The path holds the character zero. -/
  | zeroInName
deriving Repr, DecidableEq

/-- The text shown for a problem. -/
def FileProblem.message : FileProblem → String
  | missing => "No such file or directory (os error 2)"
  | notDirectory => "Not a directory (os error 20)"
  | isDirectory => "Is a directory (os error 21)"
  | denied => "Permission denied (os error 13)"
  | nameTooLong => "File name too long (os error 36)"
  | zeroInName => "file name contained an unexpected NUL byte"

/-- What a path leads to: the contents of a file, or why there are none. -/
abbrev Files := String → Except FileProblem Bytes

namespace Files

/-- Whether a path leads to a file or a directory. -/
def pathExists (files : Files) (path : String) : Bool :=
  match files path with
  | .ok _ => true
  | .error problem => problem == .isDirectory

/-- A path without the slashes and single dots at its end, reversed. -/
def trimEnd : List Char → List Char
  | '/' :: rest => trimEnd rest
  | '.' :: '/' :: rest => trimEnd rest
  | reversed => reversed

/-- The file name at the end of a path, if it is a proper one. -/
def fileName? (path : String) : Option String :=
  match (trimEnd path.toList.reverse).takeWhile fun c => c != '/' with
  | [] => none
  | ['.'] => none
  | ['.', '.'] => none
  | reversed => some (String.ofList reversed.reverse)

/-- What follows the last dot of a file name, the first character aside. -/
def suffix? (path : String) : Option String := do
  match (← fileName? path).toList with
  | [] => none
  | _ :: rest =>
    match rest.reverse.dropWhile fun c => c != '.' with
    | [] => none
    | _ => return String.ofList (rest.reverse.takeWhile fun c => c != '.').reverse

/-- A path with a dot and a word added to its file name. -/
def withSuffix? (path word : String) : Option String :=
  (fileName? path).map fun _ =>
    String.ofList (trimEnd path.toList.reverse).reverse ++ "." ++ word

end Files

end WireSchemas
