import ColumnQuery.CommandLine.Run

/-! The program: it looks up the variables and the files that a command may depend on, and prints what
the run on them gives. -/
namespace ColumnQuery.CommandLine

/-- What stands at a path of the file system. -/
def look (path : String) : IO FileEntry := do
  try
    return .file (← IO.FS.readBinFile path)
  catch
    | .inappropriateType _ code _ => return if code = 20 then .throughFile else .directory
    | _ => return .absent

/-- What stands at each of some paths. -/
def lookAt (paths : List String) : IO (String → FileEntry) := do
  let entries ← paths.mapM fun path => return (path, ← look path)
  return fun path => (entries.lookup path).getD .absent

/-- The values of some variables. -/
def variablesOf (names : List String) : IO Environment := do
  let values ← names.mapM fun name => return (name, ← IO.getEnv name)
  return fun name => (values.lookup name).join

/-- Everything that the run of a command depends on. -/
def worldOf (command : Command) : IO World := do
  let env ← variablesOf fixedVariables
  let files ← lookAt (command.paths env)
  let env ← variablesOf (fixedVariables ++ command.neededVariables ⟨env, files⟩)
  return ⟨env, files⟩

end ColumnQuery.CommandLine

open ColumnQuery.CommandLine

/-- Runs the program on its arguments. -/
def main (arguments : List String) : IO UInt32 := do
  let world ←
    match request? arguments with
    | some (.command command) => worldOf command
    | _ => pure ⟨fun _ => none, fun _ => .absent⟩
  let outcome := run world arguments
  IO.print outcome.stdout
  IO.eprint outcome.stderr
  return outcome.exitCode
