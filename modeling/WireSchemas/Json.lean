import WireSchemas.Text.Integer

/-!
# JSON values

A `Json` is what a typed reader can use of a JSON text.  Numbers matter only as integers, so a
number keeps its value when it is written as one; texts keep their characters when they are
Unicode text.  A member or element that no reader asks for may be anything.
-/

namespace WireSchemas

/-- A JSON value. -/
inductive Json where
  | null
  | bool (b : Bool)
  /-- A number, `none` for one with a fraction or an exponent, and for minus zero. -/
  | number (integer : Option Int)
  /-- A string, `none` for one with a lone surrogate or with bytes that are not UTF-8. -/
  | string (text : Option String)
  | array (elements : List Json)
  | object (members : List (Option String × Json))

namespace Json

/-- The text of a string. -/
def text? : Json → Option String
  | .string t => t
  | _ => none

/-- A truth value. -/
def bool? : Json → Option Bool
  | .bool b => some b
  | _ => none

/-- An integer in the range of a type. -/
def integer? (t : Text.IntegerType) : Json → Option Int
  | .number (some n) => if t.Holds n then some n else none
  | _ => none

/-- A value or `null`. -/
def nullable? {α : Type} (read : Json → Option α) : Json → Option (Option α)
  | .null => some none
  | j => (read j).map some

/-- The elements of an array. -/
def list? {α : Type} (read : Json → Option α) : Json → Option (List α)
  | .array elements => elements.mapM read
  | _ => none

/-- The name of an alternative without data: a string, or an object that maps it to `null`. -/
def alternative? : Json → Option String
  | .string t => t
  | .object [(key, .null)] => key
  | _ => none

/-! ### Records -/

/-- The values found for the fields of a record, in the order of the fields. -/
structure Fields where
  /-- Whether the record was written as an array of its fields. -/
  positional : Bool
  values : List (Option Json)

/-- The value of a named member; a name that occurs twice is refused. -/
def member? (name : String) (members : List (Option String × Json)) : Option (Option Json) :=
  match members.filter fun m => m.1 == some name with
  | [] => some none
  | [m] => some (some m.2)
  | _ => none

/-- The fields of a record: the members of an object by name, other members ignored, or the
elements of an array by position, none to spare. -/
def fields? (names : List String) : Json → Option Fields
  | .object members =>
    if members.all fun m => m.1.isSome then
      (names.mapM fun name => member? name members).map fun values => ⟨false, values⟩
    else none
  | .array elements =>
    if elements.length ≤ names.length then
      some ⟨true, (elements.map some) ++ List.replicate (names.length - elements.length) none⟩
    else none
  | _ => none

/-- The members of an object of texts and nulls. -/
def textMembers? : Json → Option (List (String × Option String))
  | .object members => members.mapM fun m => do
    let key ← m.1
    let value ← nullable? text? m.2
    return (key, value)
  | _ => none

end Json

end WireSchemas
