import SqlScript.Error
import SqlScript.Value
import SqlScript.Text.CharClass

/-!
Failures as callers see them: a class, a detail that says what is wrong, and further arguments. The
text of a failure is its arguments and then its detail.
-/

namespace SqlScript

inductive FailureClass where
  | general
  | tokenization
  | configuration
  | serialization
  | missingDependency
deriving DecidableEq, Repr

namespace FailureClass

def all : List FailureClass :=
  [.general, .tokenization, .configuration, .serialization, .missingDependency]

def name : FailureClass → String
  | .general => "SQLSplitError"
  | .tokenization => "SQLTokenizationError"
  | .configuration => "ImproperConfigurationError"
  | .serialization => "SerializationError"
  | .missingDependency => "MissingDependencyError"

def ofName? (s : String) : Option FailureClass :=
  all.find? (·.name == s)

/-- The names of a class and of those that it specialises, nearest first. -/
def lineage : FailureClass → List String
  | .general => [name .general]
  | .missingDependency => [name .missingDependency, name .general, "ImportError"]
  | c => [c.name, name .general]

end FailureClass

/-- The values of the parameters of a call that is given some arguments by position and some by
name; the first `required` parameters must have one. -/
def bindArguments (call : String) (parameters : List String) (required : Nat) (args : List Value)
    (named : Named) : Except Error (List (Option Value)) := do
  let check (name : String) : Option Error :=
    if ("self" :: parameters.take args.length).contains name then
      some (.repeatedArgument call name)
    else if parameters.contains name then none
    else some (.unexpectedArgument call name)
  match (named.map (·.1)).findSome? check with
  | some error => throw error
  | none => pure ()
  if parameters.length < args.length then
    throw (.tooManyArguments call (required + 1) (parameters.length + 1) (args.length + 1))
  let values := parameters.zipIdx.map fun p => args[p.2]?.or (named.reverse.lookup p.1)
  match ((parameters.zip values).take required).find? (·.2.isNone) with
  | some (name, _) => throw (.missingArgument call name)
  | none => return values

structure Failure where
  kind : FailureClass
  arguments : List (List Char)
  detail : Value
deriving Repr

namespace Failure

/-- Arguments that do not hold are dropped. Where no detail is given the first argument is the
detail, and where there is no argument either, an earlier detail stays. -/
def settle (kind : FailureClass) (previous : Option Value) (args : List Value) (detail : Value) :
    Failure :=
  let texts := (args.filter Value.holds).map Value.display
  if detail.holds then ⟨kind, texts, detail⟩
  else match texts with
    | first :: rest => ⟨kind, rest, .text (String.ofList first)⟩
    | [] => ⟨kind, [], previous.getD detail⟩

def generalCall : String := "SQLSplitError.__init__()"

/-- The detail among the named arguments of a failure, which have no other. -/
def namedDetail (named : Named) : Except Error Value :=
  let check (name : String) : Option Error :=
    if name = "detail" then none
    else if name = "self" then some (.repeatedArgument generalCall name)
    else some (.unexpectedArgument generalCall name)
  match (named.map (·.1)).findSome? check with
  | some error => .error error
  | none => .ok ((named.reverse.lookup "detail").getD (.text ""))

def missingDependency (package : Value) (installPackage : Option Value) : Failure :=
  let install := match installPackage with
    | some v => if v.holds then v else package
    | none => package
  let shown := String.ofList package.inspect
  let installed := String.ofList install.display
  settle .missingDependency none [.text (Error.missingPackageMessage shown installed)] (.text "")

/-- A failure of a class from the arguments of its call. -/
def make (kind : FailureClass) (args : List Value) (named : Named) : Except Error Failure :=
  match kind with
  | .tokenization => do
    let values ← bindArguments "SQLTokenizationError.__init__()" ["message"] 0 args named
    let message := match values with
      | [some v] => v
      | _ => .null
    return settle kind none
      [match message with
        | .null => .text "Issues tokenizing SQL source."
        | v => v] (.text "")
  | .missingDependency => do
    let values ← bindArguments "MissingDependencyError.__init__()" ["package", "install_package"] 1
      args named
    match values with
    | [some package, installPackage] => return missingDependency package installPackage
    | _ => throw (.missingArgument "MissingDependencyError.__init__()" "package")
  | _ => do
    let detail ← namedDetail named
    return settle kind none args detail

/-- Gives a failure new arguments; its detail stays if they bring none. -/
def remake (f : Failure) (args : List Value) : Failure :=
  settle f.kind (some f.detail) args (.text "")

/-- The text of a failure, without the white space around it. -/
def text (f : Failure) : Except Error (List Char) :=
  match f.detail with
  | .text s => .ok (Text.trim (List.intercalate [' '] (f.arguments ++ [s.toList])))
  | v => .error (.notText f.arguments.length v.typeName)

def describe (f : Failure) : String :=
  if f.detail.holds then s!"{f.kind.name} - {String.ofList f.detail.display}" else f.kind.name

end Failure

end SqlScript
