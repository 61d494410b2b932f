import WireSchemas.Toml.Moment
import WireSchemas.Toml.Number
import WireSchemas.Toml.Table

/-!
# Values of TOML

A value is a string, a list, a table in braces, or a word: a truth value, a moment or a number.  A
list may take several lines, with comments among its elements and a comma after the last.  A table
in braces stays on one line and has no such comma.
-/

namespace WireSchemas.Toml

/-! ### Words -/

/-- The characters of words. -/
def isWordChar (c : Char) : Bool :=
  c.isAlphanum || c = '+' || c = '-' || c = '_' || c = '.' || c = ':'

/-- A value that is no moment, from a whole word. -/
def plainWord? (word : List Char) : Option Datum :=
  if word = ['t', 'r', 'u', 'e'] then some (.bool true)
  else if word = ['f', 'a', 'l', 's', 'e'] then some (.bool false)
  else
    match float? word with
    | some x => some (.float x)
    | none => (integer? word).map .integer

/-- The value of a word, and what follows it. -/
def word? (cs : List Char) : Option (Datum × List Char) :=
  let word := cs.takeWhile isWordChar
  let rest := cs.dropWhile isWordChar
  match moment? word isWordChar rest with
  | some (text, after) => some (.text (String.ofList text), after)
  | none => (plainWord? word).map fun d => (d, rest)

/-! ### Lists and tables in braces -/

/-- The elements of a list up to its closing bracket, and what follows it. -/
def elements? (value? : List Char → Option (Datum × List Char)) :
    Nat → List Char → Option (List Datum × List Char)
  | 0, _ => none
  | fuel + 1, cs =>
    match skipLines false cs with
    | ']' :: after => some ([], after)
    | start => do
      let (d, afterValue) ← value? start
      match skipLines false afterValue with
      | ',' :: rest =>
        let (ds, after) ← elements? value? fuel rest
        return (d :: ds, after)
      | ']' :: after => return ([d], after)
      | _ => none

/-- A key path and its value, and what follows them and blanks. -/
def pair? (value? : List Char → Option (Datum × List Char)) (cs : List Char) :
    Option ((KeyPath × Datum) × List Char) := do
  let (path, afterKey) ← keyPath? nestingLimit cs
  match afterKey with
  | '=' :: start =>
    let (d, after) ← value? (skipGap start)
    return ((path, d), skipGap after)
  | _ => none

/-- One or more pairs up to a closing brace, and what follows it. -/
def pairs? (value? : List Char → Option (Datum × List Char)) :
    Nat → List Char → Option (List (KeyPath × Datum) × List Char)
  | 0, _ => none
  | fuel + 1, cs => do
    let (p, afterPair) ← pair? value? cs
    match afterPair with
    | ',' :: rest =>
      let (ps, after) ← pairs? value? fuel rest
      return (p :: ps, after)
    | '\x7d' :: after => return ([p], after)
    | _ => none

/-- The table of the pairs between braces. -/
def tableOfPairs? (pairs : List (KeyPath × Datum)) : Option Datum :=
  (pairs.foldlM (fun t p => insert? p.1 p.2 t) []).map fun t => .table (entryData t)

/-- A value with no more than `depth` brackets and braces around any part of it, and what follows
it. -/
def value? : Nat → List Char → Option (Datum × List Char)
  | 0, cs =>
    match string? cs with
    | some (s, after) => some (.text s, after)
    | none => word? cs
  | depth + 1, cs =>
    match cs with
    | '[' :: rest =>
      (elements? (value? depth) cs.length rest).map fun (ds, after) => (.list ds, after)
    | '\x7b' :: rest =>
      match skipGap rest with
      | '\x7d' :: after => some (.table [], after)
      | start => do
        let (ps, after) ← pairs? (value? depth) cs.length start
        return (← tableOfPairs? ps, after)
    | _ =>
      match string? cs with
      | some (s, after) => some (.text s, after)
      | none => word? cs

end WireSchemas.Toml
