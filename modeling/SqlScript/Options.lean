import SqlScript.Error
import SqlScript.Value

/-!
The options of a split: four truth values, all off at first. A change names options and gives values
of any type; it is checked as a whole before it takes effect.
-/

namespace SqlScript

inductive Flag where
  | keepTerminator
  | keepExtraSpaces
  | keepComments
  | keepEmptyStatements
deriving DecidableEq, Repr

namespace Flag

def all : List Flag :=
  [.keepTerminator, .keepExtraSpaces, .keepComments, .keepEmptyStatements]

def name : Flag → String
  | .keepTerminator => "keep_terminator"
  | .keepExtraSpaces => "keep_extra_spaces"
  | .keepComments => "keep_comments"
  | .keepEmptyStatements => "keep_empty_statements"

def names : List String :=
  all.map name

theorem mem_all (flag : Flag) : flag ∈ all := by
  cases flag <;> decide

end Flag

structure Options where
  keepTerminator : Bool := false
  keepExtraSpaces : Bool := false
  keepComments : Bool := false
  keepEmptyStatements : Bool := false
deriving DecidableEq, Repr

namespace Options

/-- Keeps everything, so that the statements spell out the script. -/
def verbatim : Options :=
  ⟨true, true, true, true⟩

def get (o : Options) : Flag → Bool
  | .keepTerminator => o.keepTerminator
  | .keepExtraSpaces => o.keepExtraSpaces
  | .keepComments => o.keepComments
  | .keepEmptyStatements => o.keepEmptyStatements

def set (o : Options) (flag : Flag) (b : Bool) : Options :=
  match flag with
  | .keepTerminator => { o with keepTerminator := b }
  | .keepExtraSpaces => { o with keepExtraSpaces := b }
  | .keepComments => { o with keepComments := b }
  | .keepEmptyStatements => { o with keepEmptyStatements := b }

theorem get_set (o : Options) (flag other : Flag) (b : Bool) :
    (o.set flag b).get other = if other = flag then b else o.get other := by
  cases flag <;> cases other <;> rfl

theorem set_get (o : Options) (flag : Flag) : o.set flag (o.get flag) = o := by
  cases flag <;> rfl

/-- The value that the last change of a flag gives it. -/
def change? (changes : Named) (flag : Flag) : Option Value :=
  changes.reverse.lookup flag.name

/-- Sets one flag as the changes say; a flag that they do not name stays. -/
def setFrom (changes : Named) (o : Options) (flag : Flag) : Except Error Options :=
  match change? changes flag with
  | none => .ok o
  | some (.bool b) => .ok (o.set flag b)
  | some v => .error (.optionType flag.name v.typeName)

/-- Sets the named flags in their own order, so the first flag with a wrong value is reported. -/
def assign (o : Options) (changes : Named) : Except Error Options :=
  Flag.all.foldlM (setFrom changes) o

/-- Options with some changes. Unknown names are reported before wrong values, the first of them
in the order of the changes. -/
def replace (o : Options) (changes : Named) : Except Error Options := do
  rejectReserved "SplitterConfig.replace()" ["self"] (changes.map (·.1))
  match (changes.map (·.1)).find? fun name => !Flag.names.contains name with
  | some name => .error (.unknownOption name)
  | none => o.assign changes

/-- What is wrong with a name that is not that of a flag. -/
def nameError? (name : String) : Option Error :=
  if Flag.names.contains name then none
  else if name = "self" then some (.repeatedArgument "SplitterConfig.__init__()" name)
  else some (.unexpectedArgument "SplitterConfig.__init__()" name)

/-- Options made from named values; a flag that is not named is off. -/
def ofNamed (named : Named) : Except Error Options :=
  match (named.map (·.1)).findSome? nameError? with
  | some error => .error error
  | none => assign {} named

/-- The options as named truth values, in the order of the flags. -/
def toNamed (o : Options) : List (String × Bool) :=
  Flag.all.map fun flag => (flag.name, o.get flag)

end Options

end SqlScript
