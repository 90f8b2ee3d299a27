import SqlScript.Log.Line

/-!
The loggers of the library. Each has a name, and dots in it stand between a logger and those above
it. Only the one at the root is ever configured; the others have no settings of their own, so they
take the level of the nearest logger above them that has one and hand their records on. Above the
root are the loggers of the application, whose sinks are not the library's.
-/

namespace SqlScript.Log

inductive Format where
  | structured
  | simple
deriving DecidableEq, Repr

namespace Format

def ofName? : String → Option Format
  | "structured" => some .structured
  | "simple" => some .simple
  | _ => none

def line (format : Format) (timestamp : String) (r : Record) : Except Error (List Char) :=
  match format with
  | .structured => r.structured timestamp
  | .simple => .ok r.simple

/-- What a sink of the format writes. A record that has no line in the format is left out. -/
def write (format : Format) (timestamp : String) (r : Record) : List Char :=
  match format.line timestamp r with
  | .ok line => line ++ ['\n']
  | .error _ => []

end Format

/-- The loggers above the one whose name is given, read backwards, nearest first. The next one is
the nearest of those made whose name stands before a dot. A dot side by side with one that has been
tried in vain is passed over. -/
def above (made : List String) : List Char → List String
  | c :: d :: rest =>
    if c = '.' then
      let name := String.ofList (d :: rest).reverse
      if made.contains name then name :: above made (d :: rest) else above made rest
    else above made (d :: rest)
  | _ => []

/-- The names of a logger and of those above it, nearest first. -/
def lineage (made : List String) (name : String) : List String :=
  name :: above made name.toList.reverse

/-- The level that the application logs from, above all loggers of the library. -/
def applicationLevel : Int := 30

/-- The settings of a logger: the sinks in the order in which they were added, the level, which is
zero where none is set, and whether records go on to the loggers above. -/
structure Settings where
  sinks : List Format := []
  level : Int := 0
  propagates : Bool := true
deriving DecidableEq, Repr

/-- The level of the nearest logger that has one. -/
def effectiveLevel : List Settings → Int
  | [] => applicationLevel
  | l :: above => if l.level = 0 then effectiveLevel above else l.level

/-- The sinks that a record reaches on its way up. -/
def reached : List Settings → List Format
  | [] => []
  | l :: above => l.sinks ++ if l.propagates then reached above else []

/-- The logger at the root, the names of the loggers that have been made, and what these remember:
whether they let the records of a level pass. -/
structure Logger extends Settings where
  made : List String := [rootName]
  remembered : List ((String × Int) × Bool) := []
deriving DecidableEq, Repr

namespace Logger

def handlers (l : Logger) : Nat :=
  l.sinks.length

/-- Makes a logger of a name when it is first asked for. -/
def ask (l : Logger) (name : String) : Logger :=
  if l.made.contains name then l else { l with made := name :: l.made }

def addSink (l : Logger) (sink : Format) : Logger :=
  { l with sinks := l.sinks ++ [sink] }

def removeSink (l : Logger) (sink : Format) : Logger :=
  { l with sinks := l.sinks.erase sink }

/-- With a new level all loggers forget what they remember. -/
def setLevel (l : Logger) (level : Int) : Logger :=
  { l with level, remembered := [] }

/-- Configures a logger with a level and a format, by default that of plain information and the
structured one. The level is checked before the format, and both before anything is changed; then
one sink takes the place of all others. -/
def configure (levelText formatText : Option String) : ExceptT Error (StateM Logger) Unit := do
  let levelText := levelText.getD "INFO"
  let formatText := formatText.getD "structured"
  match levelOfName? levelText with
  | none => throw (.unknownLevel levelText)
  | some level =>
    match Format.ofName? formatText with
    | none => throw (.unknownFormat formatText)
    | some format =>
      modify (·.ask rootName)
      for sink in (← get).sinks do
        modify (·.removeSink sink)
      modify (·.addSink format)
      modify (·.setLevel level)
      modify fun l => { l with propagates := false }

/-- The logger after a change of its configuration, and whether the change went through. -/
def reconfigure (l : Logger) (levelText formatText : Option String) : Except Error Unit × Logger :=
  ((configure levelText formatText).run.run l).run

/-- The settings of a logger of the library and of those above it. -/
def chain (l : Logger) (name : String) : List Settings :=
  (lineage l.made name).map fun other => if other = rootName then l.toSettings else {}

/-- A logger lets the records of a level pass, as far as it remembers. None of level zero or below
ever pass. -/
def enables (l : Logger) (name : String) (level : Int) : Bool :=
  (l.remembered.lookup (name, level)).getD
    (0 < level && effectiveLevel (l.chain name) ≤ level)

/-- A logger that has been asked about a level remembers its answer. -/
def remember (l : Logger) (name : String) (level : Int) : Logger :=
  { l with remembered := ((name, level), l.enables name level) :: l.remembered }

/-- The logger after a record, and what the record writes. -/
def write (l : Logger) (timestamp : String) (r : Record) : Logger × List Char :=
  (l.remember r.logger r.level,
    if l.enables r.logger r.level then
      (reached (l.chain r.logger)).flatMap (·.write timestamp r)
    else [])

/-- A record with context is only handed to its logger if that lets it pass. -/
def writeContextual (l : Logger) (timestamp : String) (r : Record) : Logger × List Char :=
  let asked := l.remember r.logger r.level
  if l.enables r.logger r.level then asked.write timestamp r else (asked, [])

def writeAll (l : Logger) (timestamp : String) : List Record → Logger × List Char
  | [] => (l, [])
  | r :: rest =>
    let written := l.writeContextual timestamp r
    let others := written.1.writeAll timestamp rest
    (others.1, written.2 ++ others.2)

end Logger

end SqlScript.Log
