import SqlScript.Json.Writer
import SqlScript.Log.Record

/-!
The two forms of a record in a log: a JSON object on one line, and plain text.
-/

namespace SqlScript

/-- The JSON text of a value. A failure names the type of the whole value. -/
def Value.encode (v : Value) : Except Error (List Char) :=
  match Json.ofValue? v with
  | some json => .ok json.write
  | none => .error (.notEncodable v.typeName)

namespace Log

/-- The fields of a record. Context goes over the record's own fields, and its failure over both. -/
def Record.fields (r : Record) (timestamp : String) : Named :=
  let own : Named :=
    [("timestamp", .text timestamp), ("level", .text (levelName r.level)),
     ("logger", .text r.logger), ("message", .text r.message)]
  let merged := own.merge r.context
  match r.failure with
  | none => merged
  | some (typeName, text) => merged.set "exception" (.text (Record.failureText typeName text))

def Record.structured (r : Record) (timestamp : String) : Except Error (List Char) :=
  (Value.map ((r.fields timestamp).map fun field => (.text field.1, field.2))).encode

def Record.simple (r : Record) : List Char :=
  s!"{levelName r.level} {r.logger}: {r.message}".toList

end Log

end SqlScript
