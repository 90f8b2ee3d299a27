import SqlScript.CommandLine.Run
import Std.Time.Format

/-!
The command line: splits a script from a file or from the standard input.
-/

namespace SqlScript.CommandLine

def usage : String :=
  "Usage: sqlsplit [OPTIONS] [SOURCE]\n\n" ++
  "  Split the SQL script in SOURCE (default: stdin) into its statements.\n\n" ++
  "Options:\n" ++
  "  --keep-terminator        Keep the trailing ; or / of each statement.\n" ++
  "  --keep-extra-spaces      Keep whitespace around each statement.\n" ++
  "  --keep-comments          Keep comments in the statements.\n" ++
  "  --keep-empty-statements  Keep statements with no content.\n" ++
  "  --placeholders           Show the number of ? placeholders per statement.\n" ++
  "  --json                   Print the statements as a JSON array.\n" ++
  "  --log-level LEVEL        Enable library logging on stderr at this level.\n" ++
  "  --log-format FORMAT      Log as plain text or as JSON lines.\n" ++
  "  --help                   Show this message and exit.\n"

def readFile (path : String) : IO (Option (List UInt8)) := do
  try
    return some (← IO.FS.readBinFile path).toList
  catch _ => return none

/-- The source of well-formed arguments, so that only it is read. -/
def sourceOf (args : List String) : Option String :=
  (given? args).bind fun given => given.invocation?.map (·.source)

def readEnvironment (args : List String) : IO Environment := do
  match sourceOf args with
  | none => return { input := [], file? := fun _ => none }
  | some "-" =>
    let data ← (← IO.getStdin).readBinToEnd
    return { input := data.toList, file? := fun _ => none }
  | some path =>
    let content ← readFile path
    return { input := [], file? := fun p => if p = path then content else none }

end SqlScript.CommandLine

open SqlScript.CommandLine

def main (args : List String) : IO UInt32 := do
  let timestamp := (← Std.Time.PlainDateTime.now).format "uuuu-MM-dd HH:mm:ss,SSS"
  match run (← readEnvironment args) timestamp args with
  | .ok (.done output log) =>
    IO.eprint (String.ofList log)
    IO.print (String.ofList output)
    return 0
  | .ok .help =>
    IO.print usage
    return 0
  | .ok .usageError =>
    IO.eprint usage
    return 2
  | .error e =>
    IO.eprintln e.message
    return 1
