import WireSchemas.Text.Hex

/-!
# Writing JSON

Compact text: no blanks between the tokens, members in the order given.  In a string only the
quotation mark, the backslash and the control characters below the space are escaped.
-/

namespace WireSchemas.Json

/-- A character inside a string. -/
def escape (c : Char) : List Char :=
  if c = '"' then ['\\', '"']
  else if c = '\\' then ['\\', '\\']
  else if c = '\n' then ['\\', 'n']
  else if c = '\r' then ['\\', 'r']
  else if c = '\t' then ['\\', 't']
  else if c = '\x08' then ['\\', 'b']
  else if c = '\x0c' then ['\\', 'f']
  else if c.toNat < 0x20 then
    ['\\', 'u', '0', '0', Text.Hex.digit (c.toNat / 16), Text.Hex.digit (c.toNat % 16)]
  else [c]

/-- A string between quotation marks. -/
def quoted (s : String) : List Char :=
  '"' :: (s.toList.flatMap escape ++ ['"'])

/-- Items with a separator between neighbours. -/
def separated (items : List (List Char)) : List Char :=
  (items.intersperse [',']).flatten

/-- A text or `null`. -/
def nullableText : Option String → List Char
  | none => "null".toList
  | some s => quoted s

/-- An array of written elements. -/
def arrayText (elements : List (List Char)) : List Char :=
  '[' :: (separated elements ++ [']'])

/-- An object of names and written values. -/
def objectText (members : List (String × List Char)) : List Char :=
  '\x7b' :: (separated (members.map fun m => quoted m.1 ++ ':' :: m.2) ++ ['\x7d'])

/-- A truth value. -/
def boolText (b : Bool) : List Char :=
  (if b then "true" else "false").toList

end WireSchemas.Json
