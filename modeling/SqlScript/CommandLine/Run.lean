import SqlScript.CommandLine.Arguments
import SqlScript.CommandLine.Report
import SqlScript.Log.Logger
import SqlScript.Splitter

/-!
The command as a function of its arguments and of what it can read.
-/

namespace SqlScript.CommandLine

/-- What the command can read: the standard input and files by their paths. A needed package may be
missing. -/
structure Environment where
  input : List UInt8
  file? : String → Option (List UInt8)
  hasPackage : String → Bool := fun _ => true

/-- How the command ends. With a report or its help text it succeeds. -/
inductive Outcome where
  | done (output log : List Char)
  | help
  | usageError
deriving Repr

/-- The characters that bytes encode in UTF-8. -/
def decode (data : List UInt8) : Except Error (List Char) :=
  match String.fromUTF8? (ByteArray.mk data.toArray) with
  | some s => .ok s.toList
  | none => .error .notUtf8

def Environment.read? (env : Environment) (source : String) : Option (List UInt8) :=
  if source = "-" then some env.input else env.file? source

/-- The logger of an invocation, which is silent unless a level is asked for. -/
def Invocation.logger (i : Invocation) : Except Error Log.Logger :=
  match i.logLevel with
  | none => .ok {}
  | some level =>
    let changed := ({} : Log.Logger).reconfigure (some level) (some i.logFormat)
    changed.1.map fun _ => changed.2

/-- The report and the log of a script. -/
def Invocation.process (i : Invocation) (timestamp : String) (script : List Char) :
    Except Error Outcome := do
  let logger ← i.logger
  let splitting := split i.options script
  let log := (logger.writeAll timestamp splitting.records).2
  let output :=
    if i.json then jsonReport i.placeholders splitting.statements
    else textReport i.placeholders 1 splitting.statements
  return .done output log

/-- Runs the command. Arguments are checked before anything is read. -/
def run (env : Environment) (timestamp : String) (args : List String) : Except Error Outcome := do
  if !env.hasPackage "click" then throw (.missingPackage "click" "cli")
  match given? args with
  | none => return .usageError
  | some given =>
    if given.switches.contains .help then return .help
    match given.invocation? with
    | none => return .usageError
    | some invocation =>
      match env.read? invocation.source with
      | none => return .usageError
      | some data => invocation.process timestamp (Text.normalizeNewlines (← decode data))

end SqlScript.CommandLine
