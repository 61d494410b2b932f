import WireSchemas.Files.Tree
import WireSchemas.Settings.Environment
import WireSchemas.Settings.Toml

/-!
# Where settings come from

Settings are put together from files in fixed places, a file asked for by name, and the
environment, each going over what came before.  A file in a fixed place that is absent, of unknown
kind or no Unicode text is passed over, but the one asked for must be there; a file that is read
and malformed is a failure in any place.  Only TOML is covered: a file in another language that
settings may be written in (JSON, YAML, INI, RON, JSON5) is taken for one of unknown kind.
-/

namespace WireSchemas.Settings

/-- The kind of files that are read, as the end of their names. -/
def fileKind : String := "toml"

/-- The files looked for in the working directory. -/
def localFiles : List String :=
  ["schemas.toml", ".schemas.toml", "config/schemas.toml"]

/-- The value of a variable. -/
def variableValue? (environment : List (String × String)) (name : String) : Option String :=
  (environment.find? fun v => v.1 == name).map Prod.snd

/-- The file of the user, below the directory for configuration, which a variable may give by an
absolute path and lies in the home directory otherwise. -/
def userFile? (environment : List (String × String)) : Option String :=
  let home := (variableValue? environment "HOME").filter (· ≠ "")
  let configuration := (variableValue? environment "XDG_CONFIG_HOME").filter fun p =>
    p.toList.head? = some '/'
  home.map fun h => configuration.getD (h ++ "/.config") ++ "/schemas/schemas.toml"

/-- The contents of the file that a path means: the file itself when its name ends in the known
kind, or else the file whose name goes on with it. -/
def contents? (files : Files) (path : String) : Option Bytes :=
  match files path with
  | .ok bytes => if Files.suffix? path = some fileKind then some bytes else none
  | .error _ => (Files.withSuffix? path fileKind).bind fun p => (files p).toOption

/-- The entries that a file sets, none of them if it is passed over. -/
def fileEntries? (files : Files) (required : Bool) (path : String) :
    Option (List (String × Datum)) :=
  match (contents? files path).bind Text.Utf8.decode? with
  | some text => Toml.read? text
  | none => if required then none else some []

/-- The assignments of all sources, one after the other. -/
def assignments? (files : Files) (environment : List (String × String)) (path : Option String) :
    Option (List (String × Datum)) := do
  let user := ((userFile? environment).filter files.pathExists).toList
  let fixed ← (localFiles ++ user).mapM (fileEntries? files false)
  let asked ← path.toList.mapM (fileEntries? files true)
  return fixed.flatten ++ asked.flatten ++ ofVariables environment

/-- The settings that files and environment give. -/
def load (files : Files) (environment : List (String × String)) (path : Option String) :
    Except Failure Settings :=
  match assignments? files environment path with
  | none => .error .configuration
  | some assignments =>
    match ofDatum? ((Datum.table []).assignAll assignments) with
    | none => .error .configuration
    | some s => .ok s

/-- The files after settings are saved under a path. -/
def save (s : Settings) (t : FileTree) (path : String) : Except Failure FileTree :=
  (t.write path (Text.Utf8.encode s.toToml)).mapError fun problem => .file problem.message

end WireSchemas.Settings
