import WireSchemas.Files

/-!
# File trees

A `FileTree` holds files below one directory, by the names on their paths.  A directory exists as
soon as a file lies in it.  Paths are followed name by name, with `.` for the same directory and
`..` for the one above; the outside of the tree is empty.
-/

namespace WireSchemas

/-- The files below a directory. -/
structure FileTree where
  /-- Names from the top down, with the contents of the file. -/
  files : List (List String × Bytes)
deriving Repr

namespace FileTree

/-- The greatest number of bytes in a file name. -/
def longestName : Nat := 255

/-- The greatest number of bytes in a path. -/
def longestPath : Nat := 4095

/-- The names of a path, empty ones where slashes meet or end it. -/
def names (path : String) : List String :=
  (path.split '/').toList.map (·.toString)

/-- What the names from the top down lead to. -/
def node (t : FileTree) (place : List String) : Except FileProblem Bytes :=
  match t.files.find? fun f => f.1 == place with
  | some f => .ok f.2
  | none =>
    if place = [] ∨ t.files.any fun f => place.isPrefixOf f.1 then .error .isDirectory
    else .error .missing

/-- The place that the names of a path lead to from another place. -/
def follow (t : FileTree) (place : List String) : List String → Except FileProblem (List String)
  | [] =>
    match t.node place with
    | .error .missing => .error .missing
    | _ => .ok place
  | name :: rest =>
    match t.node place with
    | .ok _ => .error .notDirectory
    | .error .isDirectory =>
      if name = "" ∨ name = "." then t.follow place rest
      else if name = ".." then
        if place = [] then .error .missing else t.follow place.dropLast rest
      else if longestName < name.utf8ByteSize then .error .nameTooLong
      else t.follow (place ++ [name]) rest
    | .error problem => .error problem

/-- A path that may be followed at all. -/
def checked (path : String) : Except FileProblem (List String) :=
  if path.toList.contains '\x00' then .error .zeroInName
  else if path = "" ∨ path.toList.head? = some '/' then .error .missing
  else if longestPath < path.utf8ByteSize then .error .nameTooLong
  else .ok (names path)

/-- The files of a tree by their paths from its top. -/
def toFiles (t : FileTree) : Files := fun path => do
  t.node (← t.follow [] (← checked path))

/-- The tree of files with given paths. -/
def ofFiles (files : List (String × Bytes)) : FileTree :=
  ⟨files.map fun f => ((names f.1).filter fun n => n ≠ "" ∧ n ≠ ".", f.2)⟩

/-- The tree after a file is put at the end of a path, in place of the one that was there. -/
def write (t : FileTree) (path : String) (contents : Bytes) : Except FileProblem FileTree := do
  let all ← checked path
  let proper := (all.reverse.dropWhile (· = "")).reverse
  match proper.getLast? with
  | none => .error .isDirectory
  | some last =>
    let directory ← t.follow [] proper.dropLast
    match t.node directory with
    | .ok _ => .error .notDirectory
    | .error .isDirectory =>
      let place := directory ++ [last]
      if all.length ≠ proper.length ∨ last = "." ∨ last = ".."
          ∨ t.node place matches .error .isDirectory then
        .error .isDirectory
      else if longestName < last.utf8ByteSize then .error .nameTooLong
      else .ok ⟨(place, contents) :: t.files.filter fun f => f.1 ≠ place⟩
    | .error problem => .error problem

end FileTree

end WireSchemas
