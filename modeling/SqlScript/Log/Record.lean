import SqlScript.Error
import SqlScript.Text.LetterCase
import SqlScript.Value

/-!
Log records, the levels that rank them and the names of the loggers that write them.
-/

namespace SqlScript.Log

def rootName : String := "sqlsplit"

/-- The name of the logger that a caller asks for. All names lie below the name of the root. -/
def loggerName (name? : Option String) : String :=
  match name? with
  | none => rootName
  | some name =>
    if name = "" ∨ name = rootName then rootName
    else if (rootName ++ ".").isPrefixOf name then name
    else rootName ++ "." ++ name

def levelNames : List (String × Int) :=
  [("NOTSET", 0), ("DEBUG", 10), ("INFO", 20), ("WARNING", 30), ("ERROR", 40), ("CRITICAL", 50)]

/-- Other names of two levels. -/
def levelAliases : List (String × Int) :=
  [("WARN", 30), ("FATAL", 50)]

/-- The level that a name in any case stands for. -/
def levelOfName? (name : String) : Option Int :=
  (levelNames ++ levelAliases).lookup (String.ofList (Text.upper name.toList))

def levelName (level : Int) : String :=
  match levelNames.find? (·.2 == level) with
  | some (name, _) => name
  | none => s!"Level {level}"

structure Record where
  level : Int
  logger : String
  message : String
  context : Named := []
  /-- The failure that the record reports, as its type and its text. -/
  failure : Option (String × String) := none
deriving Repr

namespace Record

/-- Context may not use the names of a record's own fields. -/
def withContext (level : Int) (logger message : String) (context : Named) :
    Except Error Record := do
  rejectReserved "log_with_context()" ["logger", "level", "message"] (context.map (·.1))
  return { level, logger, message, context }

def failureText (typeName text : String) : String :=
  if text = "" then typeName else s!"{typeName}: {text}"

end Record

end SqlScript.Log
