import SchemaEvolution.CommandLine

/-!
# The program

Reads the statements of the database from a file, answers one request, and adds the statements of
the request to the file.
-/

open SchemaEvolution CommandLine

/-- The lines of a file, or none if there is no such file. -/
def readStatements (file : String) : IO (List String) := do
  try
    return (← IO.FS.lines file).toList
  catch _ => return []

/-- Runs the request of the command line; the exit code is one if it fails. -/
def main (args : List String) : IO UInt32 := do
  match ({} : Invocation).read? args with
  | some { file := file, request := some request } =>
    let statements ← readStatements file
    let reply := answer (database statements) request
    IO.print reply.output
    let lines := statements ++ reply.changes
    IO.FS.writeFile file (String.join (lines.map (· ++ "\n")))
    return if reply.success then 0 else 1
  | _ =>
    IO.eprint usage
    return 1
