import WireSchemas.Toml.Quoted

/-!
# Keys of TOML

A key is bare or a string on one line.  Keys joined by dots, with blanks allowed around each, lead
from table to table.
-/

namespace WireSchemas.Toml

/-- A key below a chain of tables. -/
structure KeyPath where
  parents : List String
  last : String
deriving Repr, DecidableEq

/-- All keys of a path. -/
def KeyPath.keys (p : KeyPath) : List String :=
  p.parents ++ [p.last]

/-- The characters of bare keys. -/
def isBareChar (c : Char) : Bool :=
  c.isAlphanum || c = '_' || c = '-'

/-- One key, and what follows it. -/
def key? (cs : List Char) : Option (String × List Char) :=
  match lineString? cs with
  | some r => some r
  | none =>
    match cs.takeWhile isBareChar with
    | [] => none
    | bare => some (String.ofList bare, cs.dropWhile isBareChar)

/-- The greatest number of keys in a path, and of brackets and braces within one another. -/
def nestingLimit : Nat := 79

/-- At most `limit` keys joined by dots, and what follows them and blanks. -/
def keyPath? : Nat → List Char → Option (KeyPath × List Char)
  | 0, _ => none
  | limit + 1, cs => do
    let (k, afterKey) ← key? (skipGap cs)
    match skipGap afterKey with
    | '.' :: rest =>
      let (path, after) ← keyPath? limit rest
      return (⟨k :: path.parents, path.last⟩, after)
    | after => return (⟨[], k⟩, after)

end WireSchemas.Toml
