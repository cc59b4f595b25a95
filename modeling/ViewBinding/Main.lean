import ViewBinding.CommandLine.Basic

/-!
# The program

Runs the command line on the file system of the machine.
-/

namespace ViewBinding

/-- The result of an action, or the wording of its error. -/
def attempt {α : Type} (action : IO α) : IO (Except String α) := do
  try return .ok (← action)
  catch e => return .error (toString e)

/-- The file system of the machine. -/
def machineFiles : FileSystem IO where
  readText path := attempt (IO.FS.readFile path.text)
  makeDirs path := attempt (if path.text.isEmpty then pure () else IO.FS.createDirAll path.text)
  write path text := attempt (IO.FS.writeFile path.text text)

end ViewBinding

/-- Runs the program and exits with its code. -/
def main (args : List String) : IO UInt32 := do
  let settingsFile ← IO.getEnv "VIEWINJECT_CONFIG"
  let response ← ViewBinding.CommandLine.run ViewBinding.machineFiles args settingsFile
  IO.print response.output
  IO.eprint response.complaint
  return response.exitCode.toUInt32
