import WireSchemas.Failure
import WireSchemas.Naming.OutputFormat

/-!
# Reading the names of formats

Format names are read without regard to blanks around them and to the case of ASCII letters.  In
the name of an output format hyphens count as underscores.
-/

namespace WireSchemas

/-- The data format that a text names, by name or number. -/
def DataFormat.parse (s : String) : Except Failure DataFormat :=
  let text := Text.lowerAscii (Text.trim s)
  match ofNameOrNumber? text with
  | some f => .ok f
  | .none => .error (.invalidInput (.unknownDataFormat text))

/-- The output format that a text names. -/
def Naming.OutputFormat.parse (s : String) : Except Failure Naming.OutputFormat :=
  let text := (Text.lowerAscii (Text.trim s)).map fun c => if c = '-' then '_' else c
  match ofShortName? text with
  | some f => .ok f
  | .none => .error (.invalidInput (.unknownOutputFormat text))

end WireSchemas
