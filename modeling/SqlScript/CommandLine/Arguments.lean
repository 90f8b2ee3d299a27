import SqlScript.Options
import SqlScript.Text.LetterCase

/-!
The arguments of the command: switches and settings, in any order among the positional arguments,
of which there is at most one. A setting takes its value after an equals sign or from the next
argument; the last of repeated settings counts, and only it is checked.
-/

namespace SqlScript.CommandLine

inductive Switch where
  | option (flag : Flag)
  | placeholders
  | json
  | help
deriving DecidableEq, Repr

def Switch.ofName? : String → Option Switch
  | "--keep-terminator" => some (.option .keepTerminator)
  | "--keep-extra-spaces" => some (.option .keepExtraSpaces)
  | "--keep-comments" => some (.option .keepComments)
  | "--keep-empty-statements" => some (.option .keepEmptyStatements)
  | "--placeholders" => some .placeholders
  | "--json" => some .json
  | "--help" => some .help
  | _ => none

inductive Setting where
  | logLevel
  | logFormat
deriving DecidableEq, Repr

def Setting.ofName? : String → Option Setting
  | "--log-level" => some .logLevel
  | "--log-format" => some .logFormat
  | _ => none

/-- The values that a setting may have. -/
def Setting.choices : Setting → List String
  | .logLevel => ["DEBUG", "INFO", "WARNING", "ERROR", "CRITICAL"]
  | .logFormat => ["simple", "structured"]

/-- The choice that a value spells in any case. -/
def Setting.choice? (setting : Setting) (value : String) : Option String :=
  setting.choices.find? fun choice => Text.isCaseVariantOf value.toList choice.toList

/-- The arguments as they are given, each list in order. -/
structure Given where
  switches : List Switch := []
  settings : List (Setting × String) := []
  positional : List String := []
deriving Repr

namespace Given

def addSwitch (g : Given) (switch : Switch) : Given :=
  { g with switches := switch :: g.switches }

def addSetting (g : Given) (setting : Setting) (value : String) : Given :=
  { g with settings := (setting, value) :: g.settings }

def addPositional (g : Given) (value : String) : Given :=
  { g with positional := value :: g.positional }

end Given

/-- An argument is an option if it starts with a hyphen and is not just that. -/
def isOption (arg : List Char) : Bool :=
  arg.head? == some '-' && arg.length > 1

/-- Sorts the arguments out; none is the answer to an unknown option, a value for a switch, and a
setting without a value. -/
def given? : List String → Option Given
  | [] => some {}
  | arg :: rest =>
    if arg = "--" then some { positional := rest }
    else if isOption arg.toList then
      let name := arg.toList.takeWhile (· != '=')
      match arg.toList.dropWhile (· != '=') with
      | _ :: value => do
        let setting ← Setting.ofName? (String.ofList name)
        return (← given? rest).addSetting setting (String.ofList value)
      | [] =>
        match Switch.ofName? arg with
        | some switch => (given? rest).map (·.addSwitch switch)
        | none =>
          match rest with
          | [] => none
          | value :: rest => do
            let setting ← Setting.ofName? arg
            return (← given? rest).addSetting setting value
    else (given? rest).map (·.addPositional arg)

/-- What the command is to do. -/
structure Invocation where
  source : String
  options : Options
  placeholders : Bool
  json : Bool
  logLevel : Option String
  logFormat : String
deriving Repr

/-- The value of a setting, or a default where it is not given; none if it is no choice. -/
def Given.setting? (g : Given) (setting : Setting) (default : Option String) :
    Option (Option String) :=
  match g.settings.reverse.lookup setting with
  | none => some default
  | some value => (setting.choice? value).map some

/-- The source of a lone hyphen is the standard input, which is also the default. -/
def Given.invocation? (g : Given) : Option Invocation := do
  let logLevel ← g.setting? .logLevel none
  let logFormat ← g.setting? .logFormat (some "simple")
  let source ← match g.positional with
    | [] => some "-"
    | [source] => some source
    | _ => none
  return {
    source
    options := {
      keepTerminator := g.switches.contains (.option .keepTerminator)
      keepExtraSpaces := g.switches.contains (.option .keepExtraSpaces)
      keepComments := g.switches.contains (.option .keepComments)
      keepEmptyStatements := g.switches.contains (.option .keepEmptyStatements) }
    placeholders := g.switches.contains .placeholders
    json := g.switches.contains .json
    logLevel
    logFormat := logFormat.getD "simple" }

end SqlScript.CommandLine
