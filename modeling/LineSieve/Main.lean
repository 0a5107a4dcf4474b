import LineSieve.Program

/-!
# The command line

Runs the program on the files, the variables and the streams of the process.
-/

namespace LineSieve

/-- An error of the process as one of the program. -/
def systemErrorOf : IO.Error → SystemError
  | .noFileOrDirectory .. => .notFound
  | .inappropriateType .. => .notADirectory
  | .permissionDenied .. => .numbered .permissionDenied "Permission denied" 13
  | .resourceVanished .. => .brokenPipe
  | .resourceExhausted .. => .storageFull
  | e => ⟨.other, toString e⟩

/-- The number by which the system says that a path leads to a directory. -/
def directoryCode : UInt32 := 21

def openPath (path : String) : IO (Except SystemError FileEntry) := do
  try
    return .ok (.file (← IO.FS.readBinFile path).toList)
  catch
    | .inappropriateType path code reason =>
      if code = directoryCode then return .ok .directory
      else return .error (systemErrorOf (.inappropriateType path code reason))
    | e => return .error (systemErrorOf e)

/-- The files at some paths; there are no others. -/
def openPaths (workingDirectory : String) (paths : List String) : IO Files := do
  let entries ← paths.mapM fun path => do
    let full := Path.join workingDirectory path
    return (full, ← openPath full)
  return ⟨workingDirectory, fun path =>
    (entries.lookup (Path.join workingDirectory path)).getD (.error .notFound)⟩

def environment : IO Environment := do
  let values ← Program.variableNames.mapM fun name => do
    return (← IO.getEnv name).map fun value => (name, value)
  return values.filterMap id

/-- Writes the output of a plan that is carried out; if that fails the plan meets the failure. -/
def perform (files : Files) (stdin : Source) (plan : Plan) : IO Completion := do
  let completion := Program.perform files stdin .unlimited plan
  let stdout ← IO.getStdout
  try
    stdout.write ⟨completion.stdout.written.toArray⟩
    stdout.flush
    return completion
  catch e => return Program.perform files stdin (.limited 0 (systemErrorOf e)) plan

end LineSieve

open LineSieve in
def main (args : List String) : IO UInt32 := do
  let env ← environment
  let workingDirectory := (← IO.currentDir).toString
  let settings ← openPaths workingDirectory
    (Program.settingsPaths workingDirectory env args)
  let planning := Program.plan env settings args
  IO.eprint (Program.transcript env planning.diagnostics)
  let files ← openPaths workingDirectory planning.plan.paths
  let stdin ← if planning.plan.readsStandard then
      pure (Source.ofBytes (← (← IO.getStdin).readBinToEnd).toList)
    else pure Source.empty
  let completion ← perform files stdin planning.plan
  IO.eprint (Program.transcript env completion.diagnostics)
  return completion.status.toUInt32
