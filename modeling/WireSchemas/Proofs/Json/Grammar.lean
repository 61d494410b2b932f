import WireSchemas.Text.Hex

/-!
# The grammar of text objects

The texts of JSON objects whose values are strings or nulls, character by character: `Document`
says that a text is such an object with blanks around it, and which members it has.  A character of
a string stands for itself or is escaped, by a letter, by its number, or by the two surrogates of
its number; quotation marks, backslashes and control characters are always escaped.
-/

namespace WireSchemas.Json

/-- A text of blanks, which may stand between tokens. -/
def Gap (cs : List Char) : Prop :=
  ∀ c ∈ cs, c = ' ' ∨ c = '\t' ∨ c = '\n' ∨ c = '\r'

/-! ### Strings -/

/-- The character that a one-letter escape stands for. -/
def escapedChar? : Char → Option Char
  | '"' => some '"'
  | '\\' => some '\\'
  | '/' => some '/'
  | 'b' => some '\x08'
  | 'f' => some '\x0c'
  | 'n' => some '\n'
  | 'r' => some '\r'
  | 't' => some '\t'
  | _ => none

/-- The UTF-16 unit that four hexadecimal digits denote. -/
def unitOf? (a b c d : Char) : Option Nat := do
  return 4096 * (← Text.Hex.value? a) + 256 * (← Text.Hex.value? b) +
    16 * (← Text.Hex.value? c) + (← Text.Hex.value? d)

/-- The number of the character that a high and a low surrogate stand for. -/
def joined (high low : Nat) : Nat :=
  0x10000 + (high - 0xD800) * 0x400 + (low - 0xDC00)

/-- What is written between quotation marks for a row of characters. -/
inductive Spelling : List Char → List Char → Prop
  | nil : Spelling [] []
  | plain {c : Char} {inner cs : List Char} (hmark : c ≠ '"') (hslash : c ≠ '\\')
    (hle : 0x20 ≤ c.toNat) (rest : Spelling inner cs) : Spelling (c :: inner) (c :: cs)
  | letter {e c : Char} {inner cs : List Char} (he : escapedChar? e = some c)
    (rest : Spelling inner cs) : Spelling ('\\' :: e :: inner) (c :: cs)
  | unit {a b c d x : Char} {inner cs : List Char} (hu : unitOf? a b c d = some x.toNat)
    (rest : Spelling inner cs) : Spelling ('\\' :: 'u' :: a :: b :: c :: d :: inner) (x :: cs)
  | pair {a b c d a' b' c' d' x : Char} {u v : Nat} {inner cs : List Char}
    (hu : unitOf? a b c d = some u) (hv : unitOf? a' b' c' d' = some v)
    (hhigh : 0xD800 ≤ u ∧ u < 0xDC00) (hlow : 0xDC00 ≤ v ∧ v < 0xE000)
    (hx : x.toNat = joined u v) (rest : Spelling inner cs) :
    Spelling ('\\' :: 'u' :: a :: b :: c :: d :: '\\' :: 'u' :: a' :: b' :: c' :: d' :: inner)
      (x :: cs)

/-- A string in quotation marks. -/
def Quoted (text : List Char) (s : String) : Prop :=
  ∃ inner, Spelling inner s.toList ∧ text = '"' :: (inner ++ ['"'])

/-! ### Objects -/

/-- A string or a null. -/
inductive NullableText : List Char → Option String → Prop
  | null : NullableText ['n', 'u', 'l', 'l'] none
  | text {text : List Char} {s : String} (h : Quoted text s) : NullableText text (some s)

/-- A member of an object with the blanks around its parts. -/
inductive MemberText : List Char → String × Option String → Prop
  | mk {g₁ key g₂ g₃ value g₄ : List Char} {k : String} {v : Option String} (h₁ : Gap g₁)
    (hkey : Quoted key k) (h₂ : Gap g₂) (h₃ : Gap g₃) (hvalue : NullableText value v)
    (h₄ : Gap g₄) : MemberText (g₁ ++ key ++ g₂ ++ ':' :: (g₃ ++ value ++ g₄)) (k, v)

/-- One or more members with commas between them. -/
inductive MembersText : List Char → List (String × Option String) → Prop
  | last {text : List Char} {e : String × Option String} (h : MemberText text e) :
    MembersText text [e]
  | cons {text rest : List Char} {e : String × Option String} {es : List (String × Option String)}
    (h : MemberText text e) (hrest : MembersText rest es) :
    MembersText (text ++ ',' :: rest) (e :: es)

/-- An object in braces. -/
inductive ObjectText : List Char → List (String × Option String) → Prop
  | empty {g : List Char} (h : Gap g) : ObjectText ('\x7b' :: (g ++ ['\x7d'])) []
  | members {text : List Char} {es : List (String × Option String)} (h : MembersText text es) :
    ObjectText ('\x7b' :: (text ++ ['\x7d'])) es

/-- An object with nothing but blanks around it. -/
inductive Document : List Char → List (String × Option String) → Prop
  | mk {before object after : List Char} {es : List (String × Option String)} (h₁ : Gap before)
    (hobject : ObjectText object es) (h₂ : Gap after) : Document (before ++ object ++ after) es

end WireSchemas.Json
