import TagFilter.CommandLine

/-!
# The program

Calls the command line with the arguments and the environment of the process,
and the files of the system.
-/

namespace TagFilter

/-- The environment variable with the path of the settings document. -/
def settingsVariable : String := "TAGQUERY_CONFIG"

/-- The files that a path may mean: itself, or with an extension added. -/
def settingsFiles (path : String) : List String :=
  path :: ["yaml", "yml", "toml", "json"].map (path ++ "." ++ ·)

/-- The first of some files that can be read, and its content. -/
def firstReadable : List String → IO (Option (String × String))
  | [] => return none
  | path :: paths => do
    match ← (IO.FS.readFile path).toBaseIO with
    | .ok content => return some (path, content)
    | .error _ => firstReadable paths

/-- What comes of a call, with the file that its settings are in. -/
def runWithFile (invocation : Invocation) : IO (Except CallFailure Outcome) := do
  match invocation.config with
  | none => return invocation.run fun _ => none
  | some path =>
    match ← firstReadable (settingsFiles (String.ofList path)) with
    | none => return invocation.run fun _ => none
    | some (file, content) =>
      let found := { invocation with config := some file.toList }
      return found.run fun _ => some content.toList

end TagFilter

open TagFilter in
/-- Runs one call. -/
def main (arguments : List String) : IO UInt32 := do
  let fallback := (← IO.getEnv settingsVariable).map String.toList
  let outcome ← match Invocation.ofCall? fallback (arguments.map String.toList) with
    | none => pure (.error .usage)
    | some invocation => runWithFile invocation
  let exit := Exit.of outcome
  (← IO.getStdout).putStr (String.ofList exit.output)
  (← IO.getStderr).putStr (String.ofList exit.report)
  return exit.code.toUInt32
