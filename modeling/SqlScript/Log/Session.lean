import SqlScript.Log.Logger
import SqlScript.Splitter

/-!
Sessions of a logger: changes of its configuration among the records that callers and splits log.
-/

namespace SqlScript.Log

inductive Request where
  | configure (level format : Option String)
  /-- A record with context, on the logger that a caller names. -/
  | contextual (logger : Option String) (level : Int) (message : String) (context : Named)
  | plain (logger : Option String) (level : Int) (message : String)
  | split (script : Value) (base : Option Options) (changes : Named)

namespace Logger

/-- Serves a request: the logger after it and the text that it writes. A logger that is named in a
request is made before anything else, and that of the splits is asked for with the library. -/
def serve (l : Logger) (timestamp : String) : Request → Logger × Except Error (List Char)
  | .configure level format =>
    let changed := l.reconfigure level format
    (changed.2, changed.1.map fun _ => [])
  | .contextual logger level message context =>
    let asked := l.ask (loggerName logger)
    match Record.withContext level (loggerName logger) message context with
    | .ok r =>
      let written := asked.writeContextual timestamp r
      (written.1, .ok written.2)
    | .error error => (asked, .error error)
  | .plain logger level message =>
    let written := (l.ask (loggerName logger)).write timestamp
      { level, logger := loggerName logger, message }
    (written.1, .ok written.2)
  | .split script base changes =>
    let asked := l.ask Splitting.logName
    match splitWith "split_sql_script()" script base changes with
    | .ok splitting =>
      let written := asked.writeAll timestamp splitting.records
      (written.1, .ok written.2)
    | .error error => (asked, .error error)

/-- Serves requests in turn: the logger after each of them and what it writes. -/
def serveAll (l : Logger) (timestamp : String) :
    List Request → List (Logger × Except Error (List Char))
  | [] => []
  | request :: rest =>
    let served := l.serve timestamp request
    served :: served.1.serveAll timestamp rest

end Logger

end SqlScript.Log
