import WireSchemas.Toml.Blank
import WireSchemas.Text.Hex

/-!
# Writing TOML

A string is written in the first of four forms that shows it best: basic where nothing needs an
escape, literal where there is no apostrophe, a basic string of several lines where quotation
marks come in ones and twos, and a literal string of several lines where apostrophes do.  Where
none of these will do it is basic with escapes.  A list of two or more takes a line for each of its
elements.
-/

namespace WireSchemas.Toml

/-! ### Strings -/

/-- The forms of a string. -/
inductive StringForm where
  | basic
  | literal
  | basicLines
  | literalLines
deriving Repr, DecidableEq

/-- The length of the longest row of a mark, with `current` marks before the text. -/
def longestRow (mark : Char) (current : Nat) : List Char → Nat
  | [] => current
  | c :: rest =>
    if c = mark then longestRow mark (current + 1) rest
    else max current (longestRow mark 0 rest)

/-- The form that a text is written in. -/
def StringForm.of (cs : List Char) : StringForm :=
  let plain := !cs.any fun c => isControl c && c != '\n'
  let oneLine := !cs.contains '\n'
  let unescaped := plain && !cs.contains '\\'
  let quotes := longestRow '"' 0 cs
  let apostrophes := longestRow '\'' 0 cs
  if unescaped && oneLine && quotes = 0 then basic
  else if plain && oneLine && apostrophes = 0 then literal
  else if unescaped && quotes ≤ 2 then basicLines
  else if plain && apostrophes ≤ 2 then literalLines
  else if oneLine then basic
  else basicLines

/-- An upper-case hexadecimal digit. -/
def upperDigit (n : Nat) : Char :=
  (Text.Hex.digit n).toUpper

/-- A character of a basic string, quotation marks aside. -/
def escape (lines : Bool) (c : Char) : List Char :=
  if c = '\x08' then ['\\', 'b']
  else if c = '\t' then ['\\', 't']
  else if c = '\n' then (if lines then ['\n'] else ['\\', 'n'])
  else if c = '\x0c' then ['\\', 'f']
  else if c = '\r' then ['\\', 'r']
  else if c = '\\' then ['\\', '\\']
  else if isControl c then
    ['\\', 'u', '0', '0', upperDigit (c.toNat / 16), upperDigit (c.toNat % 16)]
  else [c]

/-- The inside of a basic string, `marks` bare quotation marks before it.  On several lines no
more than two of them stand side by side. -/
def escapeAll (lines : Bool) (marks : Nat) : List Char → List Char
  | [] => []
  | c :: rest =>
    if c = '"' then
      if lines ∧ marks < 2 then '"' :: escapeAll lines (marks + 1) rest
      else '\\' :: '"' :: escapeAll lines 0 rest
    else escape lines c ++ escapeAll lines 0 rest

/-- A line end before a text that has one itself. -/
def leadingLine (cs : List Char) : List Char :=
  if cs.contains '\n' then ['\n'] else []

/-- A string in a given form. -/
def stringIn (form : StringForm) (cs : List Char) : List Char :=
  match form with
  | .basic => '"' :: (escapeAll false 0 cs ++ ['"'])
  | .literal => '\'' :: (cs ++ ['\''])
  | .basicLines =>
    ['"', '"', '"'] ++ leadingLine cs ++ escapeAll true 0 cs ++ ['"', '"', '"']
  | .literalLines => ['\'', '\'', '\''] ++ leadingLine cs ++ cs ++ ['\'', '\'', '\'']

/-- A string. -/
def stringText (s : String) : List Char :=
  stringIn (.of s.toList) s.toList

/-! ### Other values and lines -/

/-- A truth value. -/
def boolText (b : Bool) : List Char :=
  (if b then "true" else "false").toList

/-- An element of a list on a line of its own. -/
def elementLine (element : List Char) : List Char :=
  "\n    ".toList ++ element ++ [',']

/-- A list of written elements. -/
def listText : List (List Char) → List Char
  | [] => ['[', ']']
  | [element] => '[' :: (element ++ [']'])
  | elements => '[' :: (elements.flatMap elementLine ++ ['\n', ']'])

/-- A line with a key and a written value. -/
def pairLine (key : String) (value : List Char) : List Char :=
  key.toList ++ " = ".toList ++ value ++ ['\n']

/-- A line with the header of a table. -/
def headerLine (key : String) : List Char :=
  '[' :: (key.toList ++ [']', '\n'])

end WireSchemas.Toml
