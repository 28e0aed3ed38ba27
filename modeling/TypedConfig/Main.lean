import TypedConfig.Bootstrap.Units

/-!
# The command line

Runs the bootstrap with the arguments, the environment and the files of the process. The report goes
to the output; an error goes to the error output with the causes behind it, and the exit code tells a
wrong command line from a failed run.
-/

namespace TypedConfig.Bootstrap

/-- How the command is used. -/
def usage : String :=
  "usage: [-c|--config-dir DIR]... [-p|--profile PROFILE]... [--env-prefix SCOPE] "
    ++ "[-D|--set KEY=VALUE]..."

/-- What reading a path of the file system gives. -/
def readPath (path : Text) : IO FileContent := do
  try
    let bytes ← IO.FS.readBinFile (String.ofList path)
    match String.fromUTF8? bytes with
    | some content => pure (.text content.toList)
    | none => pure .unreadable
  catch
    | .noFileOrDirectory .. => pure .absent
    | _ => pure .unreadable

/-- The contents of files below a list of directories, under their paths. -/
def readNames (directories names : List Text) : IO (List (Text × FileContent)) :=
  (directories.flatMap fun directory => names.map (Path.join directory)).mapM fun path => do
    pure (path, ← readPath path)

/-- The files that were read; no other file is there. -/
def filesOf (contents : List (Text × FileContent)) : Files := fun path =>
  (contents.lookup path).getD .absent

/-- The files that a run asks for: those of the application, and those of the profiles that they and
the environment make active. -/
def readFiles (options : Options) (environment : Store) : IO Files :=
  match locations? Binder.standard options environment with
  | .error _ => pure fun _ => .absent
  | .ok locations => do
    let base ← readNames locations.directories (applicationFiles applicationName [])
    match applicationStore? (filesOf base) locations with
    | .error _ => pure (filesOf base)
    | .ok store => do
      let names := (profiles options environment store).flatMap fun profile =>
        applicationFiles (profileName applicationName profile) []
      pure (filesOf (base ++ (← readNames locations.directories names)))

/-- The environment variables of the process. -/
def processVariables : IO (List (Text × Text)) := do
  let bytes ← IO.FS.readBinFile "/proc/self/environ"
  let text := (String.fromUTF8? bytes).getD ""
  pure ((text.toList.splitOn '\x00').filterMap fun entry => Text.cut? entry ['='])

/-- The text of an error with its causes. -/
def errorText (error : BootstrapError) : Text :=
  match error.messages with
  | [] => "Error"
  | [message] => "Error: " ++ message
  | message :: causes => "Error: " ++ message ++ "\n\nCaused by:\n    " ++ Text.join "\n    " causes

/-- Runs the bootstrap and gives the exit code. -/
def serve (arguments : List Text) : IO UInt32 := do
  match Options.ofArguments? arguments with
  | none => do
    IO.eprintln usage
    pure 2
  | some options => do
    let assignments ← processVariables
    let files ← readFiles options (environment options assignments)
    match (run options assignments files).bind Outcome.result with
    | .error error => do
      IO.eprintln (String.ofList (errorText error))
      pure 1
    | .ok report => do
      IO.println (String.ofList ("executed: " ++ Text.join ", " report.executed))
      IO.println (String.ofList ("skipped: " ++ Text.join ", " report.skipped))
      pure 0

end TypedConfig.Bootstrap

def main (arguments : List String) : IO UInt32 :=
  TypedConfig.Bootstrap.serve (arguments.map String.toList)
