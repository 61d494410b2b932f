import WireSchemas.Binary64.Text
import WireSchemas.SortedMap

/-!
# Configuration data

A `Datum` is what a source of configuration says before it is known what is asked of it.  The
readers below convert between kinds where the meaning is plain: a number or a word counts as a
truth value, a truth value or a number as a text.
-/

namespace WireSchemas

/-- A value of a configuration source. -/
inductive Datum where
  /-- A place in a list that was never filled. -/
  | absent
  | bool (b : Bool)
  | integer (n : Int)
  | float (x : Binary64)
  | text (s : String)
  | list (elements : List Datum)
  /-- Entries in the order of their keys. -/
  | table (entries : List (String × Datum))

namespace Datum

instance : Inhabited Datum := ⟨absent⟩

/-- A text in lower case. -/
def folded (s : String) : String :=
  String.ofList (Text.lowerChars s.toList)

/-- The entries of a table; other values have none. -/
def entries : Datum → List (String × Datum)
  | table es => es
  | _ => []

/-- The elements of a list; other values have none. -/
def elements : Datum → List Datum
  | list es => es
  | _ => []

/-! ### Readers -/

/-- The truth value of a word. -/
def truth? (word : String) : Option Bool :=
  if word = "1" ∨ word = "true" ∨ word = "on" ∨ word = "yes" then some true
  else if word = "0" ∨ word = "false" ∨ word = "off" ∨ word = "no" then some false
  else none

/-- A truth value, a number that is zero or not, or a word in any case. -/
def bool? : Datum → Option Bool
  | bool b => some b
  | integer n => some (n != 0)
  | float x => some !x.isZero
  | text s => truth? (folded s)
  | _ => none

/-- A text, or the text of a truth value or a number. -/
def text? : Datum → Option String
  | text s => some s
  | bool b => some (if b then "true" else "false")
  | integer n => some (Text.integerText n)
  | float x => some x.toText
  | _ => none

/-- A value or nothing. -/
def optional? {α : Type} (read : Datum → Option α) : Datum → Option (Option α)
  | absent => some none
  | d => (read d).map some

/-- The elements of a list. -/
def list? {α : Type} (read : Datum → Option α) : Datum → Option (List α)
  | list es => es.mapM read
  | _ => none

/-- A name in any case: a text, or a table with the name for its only key. -/
def named? {α : Type} (ofName? : String → Option α) : Datum → Option α
  | text s => ofName? (folded s)
  | table [(key, _)] => ofName? (folded key)
  | _ => none

/-- The values found for the fields of a record: the entries of a table, or the elements of a list
by position.  Other entries and further elements are ignored. -/
def fields? (names : List String) : Datum → Option (List (Option Datum))
  | table es => some (names.map fun name => SortedMap.lookup name es)
  | list es => some (names.mapIdx fun i _ => es[i]?)
  | _ => none

/-- The value of a field, or a default when it is not there. -/
def fieldD? {α : Type} (read : Datum → Option α) (default : α) : Option Datum → Option α
  | none => some default
  | some d => read d

end Datum

end WireSchemas
