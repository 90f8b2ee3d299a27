import SqlScript.Statement
import SqlScript.Log.Record

/-!
Splitters: options that serve any number of splits and may be replaced between them, and the records
that a split logs.
-/

namespace SqlScript

def Value.asScript : Value → Except Error (List Char)
  | .text s => .ok s.toList
  | v => .error (.notScript v.typeName)

namespace Splitting

def logName : String := Log.loggerName (some "sqlsplit.core.splitter")

/-- A script that ends with a construct open is worth a remark. -/
def openRecord? (s : Splitting) : Option Log.Record :=
  if s.ending.canTerminate then none
  else
    some
      { level := 10, logger := logName, message := "Script ended inside an open construct"
        context :=
          [("block_depth", .int s.ending.depth),
           ("in_procedural_header", .bool s.ending.inHeader),
           ("package_name", match s.ending.package with
            | some name => .text (String.ofList name)
            | none => .null)] }

def summaryRecord (s : Splitting) : Log.Record :=
  { level := 10, logger := logName
    message := s!"Split {s.characters} characters into {s.statements.length} statements"
    context :=
      [("characters", .int s.characters), ("statements", .int s.statements.length),
       ("placeholders", .int s.placeholders)] }

/-- The records that a split logs, in order. -/
def records (s : Splitting) : List Log.Record :=
  s.openRecord?.toList ++ [s.summaryRecord]

end Splitting

structure Splitter where
  options : Options
deriving DecidableEq, Repr

namespace Splitter

/-- A splitter with the given options, or with none, and the given changes of them. -/
def make (base : Option Options) (changes : Named) : Except Error Splitter := do
  rejectReserved "StatementSplitter.__init__()" ["self", "config"] (changes.map (·.1))
  let options ← (base.getD {}).replace changes
  return ⟨options⟩

def split (s : Splitter) (script : Value) : Except Error Splitting := do
  return SqlScript.split s.options (← script.asScript)

end Splitter

/-- What may be asked of a splitter in the course of its use. -/
inductive Request where
  | split (script : Value)
  | configure (options : Options)
  | replace (changes : Named)

inductive Answer where
  | splitting (s : Splitting)
  | options (o : Options)

namespace Splitter

/-- Serves a request. A request that fails leaves the splitter as it was. -/
def serve (s : Splitter) : Request → Splitter × Except Error Answer
  | .split script => (s, (s.split script).map .splitting)
  | .configure options => (⟨options⟩, .ok (.options options))
  | .replace changes =>
    match s.options.replace changes with
    | .ok options => (⟨options⟩, .ok (.options options))
    | .error error => (s, .error error)

/-- Serves requests in turn, and collects the answers. -/
def serveAll (s : Splitter) : List Request → Splitter × List (Except Error Answer)
  | [] => (s, [])
  | request :: rest =>
    let served := s.serve request
    let others := served.1.serveAll rest
    (others.1, served.2 :: others.2)

end Splitter

/-- A split of a script by a splitter made for it. `call` names the call whose own arguments the
changes may not name. -/
def splitWith (call : String) (script : Value) (base : Option Options) (changes : Named) :
    Except Error Splitting := do
  rejectReserved call ["script", "config"] (changes.map (·.1))
  let splitter ← Splitter.make base changes
  splitter.split script

end SqlScript
