import SqlScript.Text.Quoted

/-!
What can go wrong, by cause, and the message for each cause.
-/

namespace SqlScript

inductive Error where
  /-- A script must be a text. -/
  | notScript (typeName : String)
  /-- A call has no argument of this name. -/
  | unexpectedArgument (call name : String)
  /-- An argument of a call is given by its position and by its name. -/
  | repeatedArgument (call name : String)
  | unknownOption (name : String)
  /-- An option must be a truth value. -/
  | optionType (name typeName : String)
  /-- Options do not change in place. -/
  | readOnly (name : String)
  | notEncodable (typeName : String)
  | unknownLevel (name : String)
  | unknownFormat (name : String)
  | outOfRange
  | unknownKind (name : String)
  | missingPackage (name installName : String)
  | notUtf8
  /-- A call takes fewer arguments by position than it is given. -/
  | tooManyArguments (call : String) (least most given : Nat)
  | missingArgument (call name : String)
  /-- All parts of a joined text must be texts. -/
  | notText (index : Nat) (typeName : String)
deriving DecidableEq, Repr

namespace Error

def quote (s : String) : String :=
  String.ofList (Text.quoted s.toList)

/-- The advice for a package that is not installed, from its quoted name. -/
def missingPackageMessage (quotedName installName : String) : String :=
  s!"Package {quotedName} is not installed but required. You can install it by running " ++
    s!"'pip install sqlsplit[{installName}]' to install sqlsplit with the required extra " ++
    s!"or 'pip install {installName}' to install the package separately"

def message : Error → String
  | .notScript typeName => s!"Expected SQL source as str, got {typeName}"
  | .unexpectedArgument call name => s!"{call} got an unexpected keyword argument '{name}'"
  | .repeatedArgument call name => s!"{call} got multiple values for argument '{name}'"
  | .unknownOption name => s!"{quote name} is not a field in SplitterConfig"
  | .optionType name typeName => s!"Option {quote name} must be a bool, got {typeName}"
  | .readOnly name => s!"cannot assign to field {quote name}"
  | .notEncodable typeName => s!"Unable to encode {typeName} as JSON"
  | .unknownLevel name => s!"Unknown log level {quote name}"
  | .unknownFormat name =>
    s!"Unknown log format {quote name}, expected one of structured, simple"
  | .outOfRange => "string index out of range"
  | .unknownKind name => s!"{quote name} is not a valid TokenType"
  | .missingPackage name installName => missingPackageMessage (quote name) installName
  | .notUtf8 => "invalid UTF-8"
  | .tooManyArguments call least most given =>
    s!"{call} takes from {least} to {most} positional arguments but {given} were given"
  | .missingArgument call name => s!"{call} missing 1 required positional argument: '{name}'"
  | .notText index typeName => s!"sequence item {index}: expected str instance, {typeName} found"

end Error

/-- Fails at the first of the given names that a call reserves for its own arguments. -/
def rejectReserved (call : String) (reserved names : List String) : Except Error Unit :=
  match names.find? reserved.contains with
  | some name => .error (.repeatedArgument call name)
  | none => .ok ()

theorem rejectReserved_cases (call : String) (reserved names : List String) :
    (rejectReserved call reserved names = .ok () ∧ ∀ name ∈ names, name ∉ reserved) ∨
      ∃ name ∈ names, name ∈ reserved ∧
        rejectReserved call reserved names = .error (.repeatedArgument call name) := by
  rw [rejectReserved]
  cases h : names.find? reserved.contains with
  | none => exact .inl ⟨rfl, fun name hname => by simpa using List.find?_eq_none.1 h name hname⟩
  | some name =>
    exact .inr ⟨name, List.mem_of_find?_eq_some h, by simpa using List.find?_some h, rfl⟩

/-- A call that succeeds behind the check is given no reserved name. -/
theorem of_rejectReserved_bind {α : Type} {call : String} {reserved names : List String}
    {x : Except Error α} {a : α} (h : (rejectReserved call reserved names >>= fun _ => x) = .ok a) :
    (∀ name ∈ names, name ∉ reserved) ∧ x = .ok a := by
  rcases rejectReserved_cases call reserved names with ⟨hok, hfree⟩ | ⟨name, -, -, herror⟩
  · rw [hok] at h
    exact ⟨hfree, h⟩
  · rw [herror] at h
    cases h

end SqlScript
