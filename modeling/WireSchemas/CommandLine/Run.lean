import WireSchemas.CommandLine.Command
import WireSchemas.CommandLine.Listing
import WireSchemas.Settings.Sources

/-!
# Running commands

Running the program is a function of its arguments, the files and the environment.  Arguments that
say nothing end it with code 2 before anything is read, and a failure with code 1.  The lines that
the program logs on its output when the environment asks for them are left out.
-/

namespace WireSchemas.CommandLine

/-- What a run leaves: the exit code and the texts on the two outputs. -/
structure Outcome where
  exit : Nat
  output : String := ""
  errors : String := ""
deriving Repr, DecidableEq

/-- Why a command that was understood fails. -/
inductive RunFailure where
  /-- The settings cannot be loaded. -/
  | settings
  | naming (f : Failure)
  | reading (path : String) (problem : FileProblem)
deriving Repr, DecidableEq

/-- The text shown for a failure. -/
def RunFailure.message : RunFailure → String
  | settings => "Error: loading configuration"
  | naming f => "Error: " ++ f.message ++ "\n"
  | reading path problem => "Error: reading " ++ path ++ ": " ++ problem.message ++ "\n"

/-- The settings of names, with the parts that a question gives in place of the configured ones. -/
def NameQuery.naming (q : NameQuery) (n : NamingSettings) : NamingSettings where
  strategy := q.strategy.getD n.strategy
  scope := q.scope <|> n.scope
  output := q.output.getD n.output

/-- The schema name that a question asks for. -/
def NameQuery.answer (q : NameQuery) (n : NamingSettings) : Except Failure String := do
  (← (q.naming n).toStrategy).schemaName q.type q.stream

/-- Lines with their ends. -/
def lines (ls : List String) : String :=
  String.join (ls.map (· ++ "\n"))

/-- What a command shows. -/
def Command.output (files : Files) (s : Settings) : Command → Except RunFailure String
  | name q => ((q.answer s.naming).map fun n => lines [n]).mapError .naming
  | contentType format => .ok (lines [format.contentType])
  | headers path =>
    match files path with
    | .ok bytes => .ok (lines (Headers.decode bytes).listing)
    | .error problem => .error (.reading path problem)
  | settings => .ok s.toToml

/-- A run for an invocation. -/
def Invocation.output (files : Files) (environment : List (String × String)) (i : Invocation) :
    Except RunFailure String :=
  match Settings.load files environment i.settingsPath with
  | .ok s => i.command.output files s
  | .error _ => .error .settings

/-- A run of the program. -/
def run (files : Files) (environment : List (String × String)) (arguments : List String) :
    Outcome :=
  match Invocation.read? arguments with
  | none => ⟨2, "", ""⟩
  | some i =>
    match i.output files environment with
    | .ok text => ⟨0, text, ""⟩
    | .error failure => ⟨1, "", failure.message⟩

/-! ### What a run looks at -/

/-- The paths of all files that a command may read. -/
def Command.paths : Command → List String
  | headers path => [path]
  | _ => []

/-- The paths of all files that a run may read. -/
def paths (environment : List (String × String)) (arguments : List String) : List String :=
  match Invocation.read? arguments with
  | none => []
  | some i =>
    let sources :=
      Settings.localFiles ++ (Settings.userFile? environment).toList ++ i.settingsPath.toList
    sources ++ sources.filterMap (Files.withSuffix? · Settings.fileKind) ++ i.command.paths

end WireSchemas.CommandLine
