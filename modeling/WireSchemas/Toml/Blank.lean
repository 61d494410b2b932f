/-!
# Blanks, comments and line ends of TOML

Blanks are the space and the tab.  A line ends with a line feed, perhaps after a carriage return,
and a carriage return elsewhere is an error.  A comment runs to the end of its line and holds no
control character but the tab.
-/

namespace WireSchemas.Toml

/-- The space and the tab. -/
def isGap (c : Char) : Bool :=
  c = ' ' || c = '\t'

/-- The control characters, the tab aside. -/
def isControl (c : Char) : Bool :=
  c != '\t' && (c.toNat < 0x20 || c.toNat = 0x7F)

/-- The input from its first character that is not blank. -/
def skipGap (cs : List Char) : List Char :=
  cs.dropWhile isGap

/-- What follows a line end. -/
def newline? : List Char → Option (List Char)
  | '\n' :: rest => some rest
  | '\r' :: '\n' :: rest => some rest
  | _ => none

/-- What follows an optional comment. -/
def skipComment : List Char → List Char
  | '#' :: rest => rest.dropWhile fun c => !isControl c
  | cs => cs

/-- The following lines, when nothing but blanks and a comment is left on this one. -/
def endLine? (cs : List Char) : Option (List Char) :=
  match skipComment (skipGap cs) with
  | [] => some []
  | rest => newline? rest

/-- What follows blanks, line ends and comments, from outside or inside a comment. -/
def skipLines (inComment : Bool) : List Char → List Char
  | [] => []
  | c :: rest =>
    if inComment && !isControl c then skipLines true rest
    else if isGap c || c = '\n' then skipLines false rest
    else if c = '#' then skipLines true rest
    else
      match c, rest with
      | '\r', '\n' :: after => skipLines false after
      | _, _ => c :: rest

end WireSchemas.Toml
