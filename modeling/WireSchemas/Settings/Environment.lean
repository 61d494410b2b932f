import WireSchemas.Datum.Place

/-!
# Configuration by environment variables

A variable whose name begins with `SCHEMAS__`, in any case, sets the place that the rest of its
name spells, with two underscores between keys.  Its text counts as a truth value, an integer or a
floating-point number when it can be read as one.
-/

namespace WireSchemas.Settings

/-- The beginning of the variables that matter, in lower case. -/
def variableMark : List Char := "schemas__".toList

/-- The characters of a name with a dot for every two underscores. -/
def dotted : List Char → List Char
  | '_' :: '_' :: rest => '.' :: dotted rest
  | c :: rest => c :: dotted rest
  | [] => []

/-- The place that the name of a variable spells. -/
def variablePlace? (name : String) : Option String :=
  let cs := Text.lowerChars name.toList
  if variableMark.isPrefixOf cs then
    some (String.ofList (dotted (cs.drop variableMark.length)))
  else none

/-- What the text of a variable says. -/
def variableDatum (text : String) : Datum :=
  let word := Datum.folded text
  if word = "true" then .bool true
  else if word = "false" then .bool false
  else
    match Text.IntegerType.parse? ⟨true, 64⟩ text, Binary64.parse? text with
    | some n, _ => .integer n
    | none, some x => .float x
    | none, none => .text text

/-- The assignments of an environment, in the order of the places. -/
def ofVariables (environment : List (String × String)) : List (String × Datum) :=
  let assignments := environment.filterMap fun (name, text) =>
    (variablePlace? name).map fun place => (place, variableDatum text)
  (SortedMap.ofList assignments).toList

end WireSchemas.Settings
