import WireSchemas.Toml.Blank
import WireSchemas.Text.Hex

/-!
# Strings of TOML

There are basic strings, with escapes, and literal strings, without.  Both have a form on one line
and a form with several lines between tripled marks, where a line end counts as a line feed, the
first one is dropped, and one or two marks may stand before the closing three.  A backslash at the
end of a line of a basic string drops the blanks and line ends up to the next character.
-/

namespace WireSchemas.Toml

/-- The character of a one-letter escape. -/
def escaped? (c : Char) : Option Char :=
  if c = '"' ∨ c = '\\' then some c
  else if c = 'b' then some '\x08'
  else if c = 't' then some '\t'
  else if c = 'n' then some '\n'
  else if c = 'f' then some '\x0c'
  else if c = 'r' then some '\r'
  else none

/-- The character with a code point in hexadecimal digits of either case. -/
def codePoint? (digits : List Char) : Option Char := do
  let n ← digits.foldlM (fun n c => (Text.Hex.value? c).map (16 * n + ·)) 0
  if n.isValidChar then some (Char.ofNat n) else none

/-- The characters of a basic string up to its closing mark, and what follows it. -/
def basic? : List Char → Option (List Char × List Char)
  | [] => none
  | '"' :: rest => some ([], rest)
  | '\\' :: 'u' :: a :: b :: c :: d :: rest => do
    let x ← codePoint? [a, b, c, d]
    let (cs, after) ← basic? rest
    return (x :: cs, after)
  | '\\' :: 'U' :: a :: b :: c :: d :: e :: f :: g :: h :: rest => do
    let x ← codePoint? [a, b, c, d, e, f, g, h]
    let (cs, after) ← basic? rest
    return (x :: cs, after)
  | '\\' :: e :: rest => do
    let x ← escaped? e
    let (cs, after) ← basic? rest
    return (x :: cs, after)
  | c :: rest =>
    if isControl c || c = '\\' then none
    else (basic? rest).map fun (cs, after) => (c :: cs, after)

/-- The characters of a literal string up to its closing mark, and what follows it. -/
def literal? : List Char → Option (List Char × List Char)
  | [] => none
  | c :: rest =>
    if c = '\'' then some ([], rest)
    else if isControl c then none
    else (literal? rest).map fun (cs, after) => (c :: cs, after)

/-- After three marks, the marks among the next two that belong to the text, and what follows
all of them. -/
def extraMarks (mark : Char) : List Char → List Char × List Char
  | a :: b :: rest =>
    if a = mark ∧ b = mark then ([mark, mark], rest)
    else if a = mark then ([mark], b :: rest)
    else ([], a :: b :: rest)
  | [a] => if a = mark then ([mark], []) else ([], [a])
  | [] => ([], [])

/-- Whether a line ends after blanks. -/
def endsLine (cs : List Char) : Bool :=
  (newline? (skipGap cs)).isSome

/-- The characters of a basic string of several lines, and what follows its closing marks.  While
`trimming`, blanks and line ends are dropped. -/
def basicLines? (trimming : Bool) : List Char → Option (List Char × List Char)
  | [] => none
  | '"' :: '"' :: '"' :: rest => some (extraMarks '"' rest)
  | '\\' :: 'u' :: a :: b :: c :: d :: rest => do
    let x ← codePoint? [a, b, c, d]
    let (cs, after) ← basicLines? false rest
    return (x :: cs, after)
  | '\\' :: 'U' :: a :: b :: c :: d :: e :: f :: g :: h :: rest => do
    let x ← codePoint? [a, b, c, d, e, f, g, h]
    let (cs, after) ← basicLines? false rest
    return (x :: cs, after)
  | '\\' :: e :: rest =>
    if endsLine (e :: rest) then basicLines? true (e :: rest)
    else do
      let x ← escaped? e
      let (cs, after) ← basicLines? false rest
      return (x :: cs, after)
  | '\r' :: '\n' :: rest =>
    if trimming then basicLines? true rest
    else (basicLines? false rest).map fun (cs, after) => ('\n' :: cs, after)
  | c :: rest =>
    if c = '\n' || isGap c then
      if trimming then basicLines? true rest
      else (basicLines? false rest).map fun (cs, after) => (c :: cs, after)
    else if isControl c || c = '\\' then none
    else (basicLines? false rest).map fun (cs, after) => (c :: cs, after)

/-- The characters of a literal string of several lines, and what follows its closing marks. -/
def literalLines? : List Char → Option (List Char × List Char)
  | [] => none
  | '\'' :: '\'' :: '\'' :: rest => some (extraMarks '\'' rest)
  | '\r' :: '\n' :: rest => (literalLines? rest).map fun (cs, after) => ('\n' :: cs, after)
  | c :: rest =>
    if isControl c && c != '\n' then none
    else (literalLines? rest).map fun (cs, after) => (c :: cs, after)

/-- What follows a line end that may be there. -/
def dropNewline (cs : List Char) : List Char :=
  (newline? cs).getD cs

/-- A string on one line, and what follows it. -/
def lineString? : List Char → Option (String × List Char)
  | '"' :: rest => (basic? rest).map fun (cs, after) => (String.ofList cs, after)
  | '\'' :: rest => (literal? rest).map fun (cs, after) => (String.ofList cs, after)
  | _ => none

/-- A string, and what follows it. -/
def string? : List Char → Option (String × List Char)
  | '"' :: '"' :: '"' :: rest =>
    (basicLines? false (dropNewline rest)).map fun (cs, after) => (String.ofList cs, after)
  | '\'' :: '\'' :: '\'' :: rest =>
    (literalLines? (dropNewline rest)).map fun (cs, after) => (String.ofList cs, after)
  | cs => lineString? cs

end WireSchemas.Toml
