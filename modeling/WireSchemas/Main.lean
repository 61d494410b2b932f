import WireSchemas.CommandLine.Run

/-!
# The program

Reads the environment and the files that a run may look at, runs, and shows what comes of it.
-/

namespace WireSchemas

/-- The contents of a file, or what keeps it from being read. -/
def readFile (path : String) : IO (Except FileProblem Bytes) := do
  match ← (IO.FS.readBinFile path).toBaseIO with
  | .ok bytes => return .ok bytes.data.toList
  | .error (.noFileOrDirectory ..) => return .error .missing
  | .error (.permissionDenied ..) => return .error .denied
  | .error (.inappropriateType (some _) ..) => return .error .notDirectory
  | .error _ => return .error .isDirectory

/-- The variables of the environment, as the system lists them. -/
def readVariables : IO (List (String × String)) := do
  let bytes ← IO.FS.readBinFile "/proc/self/environ"
  let texts := (bytes.data.toList.splitOn 0).filterMap Text.Utf8.decode?
  return texts.filterMap fun t =>
    match t.toList.dropWhile fun c => c != '=' with
    | [] => none
    | _ :: value =>
      some (String.ofList (t.toList.takeWhile fun c => c != '='), String.ofList value)

end WireSchemas

open WireSchemas in
/-- The program. -/
def main (arguments : List String) : IO UInt32 := do
  let environment ← readVariables
  let found ← (CommandLine.paths environment arguments).mapM fun path => do
    return (path, ← readFile path)
  let files : Files := fun path => (found.lookup path).getD (.error .missing)
  let outcome := CommandLine.run files environment arguments
  (← IO.getStdout).putStr outcome.output
  (← IO.getStderr).putStr outcome.errors
  return outcome.exit.toUInt32
