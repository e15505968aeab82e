import TransferGateway.Cli.Run

/-!
# The operator's program

Reads what a command consults, carries the command out, and writes what it has written.  The
commands of hooks are run by the utilities of this library.
-/

namespace TransferGateway.Cli

/-- Put what is at a path into a tree, if it can be opened.  A path that opens, and then is of the
wrong type for reading, is that of a directory. -/
def addPath (tree : FileTree) (path : String) : IO FileTree := do
  try
    return tree.insertFile path (← IO.FS.readFile path)
  catch
    | .inappropriateType none _ _ => return tree.insertDirectory path
    | _ => return tree

/-- The variables of the environment that are set. -/
def readVariables : IO (List (String × String)) := do
  let pairs ← variableNames.mapM fun name => do
    return (← IO.getEnv name).map fun value => (name, value)
  return pairs.filterMap id

/-- The name of the machine. -/
def readHostName : IO String := do
  try
    return trimmed (← IO.FS.readFile "/etc/hostname")
  catch _ => return "relaygate"

/-- The variable that tells the working directory. -/
def workVariable : String := "PWD"

/-- A tree with the working directory alone. -/
def readTree : IO FileTree := do
  return ((← IO.getEnv workVariable).map FileTree.workingAt).getD {}

/-- The host as far as the program consults it. -/
def readHost (arguments : List String) : IO Host := do
  let files ← addPath (← readTree) EnvironmentFile.path
  let bare : Host := { name := ← readHostName, files, environment := ← readVariables }
  let files ← (consulted (EnvironmentFile.load bare) arguments).foldlM addPath files
  return { bare with files }

end TransferGateway.Cli

open TransferGateway.Cli in
/-- Run the program; it exits with the status of its outcome. -/
def main (arguments : List String) : IO UInt32 := do
  match run (← readHost arguments) arguments with
  | none => return 1
  | some outcome =>
    IO.print outcome.output
    IO.eprint outcome.errors
    if let some (path, content) := outcome.written then IO.FS.writeFile path content
    return outcome.status.toUInt32
