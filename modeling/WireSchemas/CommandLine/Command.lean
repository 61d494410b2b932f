import WireSchemas.CommandLine.Arguments

/-!
# Commands

What a user may ask for, and the arguments that say so.
-/

namespace WireSchemas.CommandLine

/-- The parts of a question for a schema name; those left out come from the settings. -/
structure NameQuery where
  type : MessageType
  stream : Option String
  strategy : Option Naming.StrategyName
  output : Option Naming.OutputFormat
  scope : Option String
deriving Repr, DecidableEq

/-- A command. -/
inductive Command where
  /-- Show the schema name of a message type. -/
  | name (query : NameQuery)
  /-- Show the content type of a data format. -/
  | contentType (format : DataFormat)
  /-- List the encoded headers in a file. -/
  | headers (path : String)
  /-- Show the settings in effect. -/
  | settings
deriving Repr, DecidableEq

/-- A command with the configuration file asked for. -/
structure Invocation where
  settingsPath : Option String
  command : Command
deriving Repr, DecidableEq

/-- A path, which is never empty. -/
def path? (text : String) : Option String :=
  if text = "" then none else some text

/-- The question that arguments ask. -/
def nameQuery? (arguments : List String) : Option NameQuery := do
  let a ← Arguments.read?
    [⟨"namespace", none⟩, ⟨"message", some 'm'⟩, ⟨"stream", some 's'⟩, ⟨"strategy", none⟩,
      ⟨"format", some 'f'⟩, ⟨"namespace-id", none⟩] false arguments
  if a.words = [] then
    return {
      type := ⟨← a.value? "namespace", ← a.value? "message"⟩
      stream := a.value? "stream"
      strategy := ← a.optional? "strategy" Naming.StrategyName.ofOptionName?
      output := ← a.optional? "format" fun t => (Naming.OutputFormat.parse t).toOption
      scope := a.value? "namespace-id" }
  else none

/-- The only word among arguments without options. -/
def onlyWord? (arguments : List String) : Option String := do
  match (← Arguments.read? [] false arguments).words with
  | [word] => some word
  | _ => none

/-- The command of a name with its arguments. -/
def command? (name : String) (arguments : List String) : Option Command :=
  if name = "name" then (nameQuery? arguments).map .name
  else if name = "content-type" then
    (onlyWord? arguments).bind fun w => (DataFormat.parse w).toOption.map .contentType
  else if name = "headers" then (onlyWord? arguments).bind fun w => (path? w).map .headers
  else if name = "config" then
    (Arguments.read? [] false arguments).bind fun a =>
      if a.words = [] then some .settings else none
  else none

/-- What the arguments of the program ask for. -/
def Invocation.read? (arguments : List String) : Option Invocation := do
  let a ← Arguments.read? [⟨"config", some 'c'⟩] true arguments
  match a.words with
  | name :: rest =>
    let settingsPath ← a.optional? "config" path?
    return ⟨settingsPath, ← command? name rest⟩
  | [] => none

end WireSchemas.CommandLine
