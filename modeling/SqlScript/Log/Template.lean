import SqlScript.Decimal.Fixed
import SqlScript.Value

/-!
Message templates: text with directives, each of which a percent sign opens, and the arguments that
take their places. A template is read as a whole before any argument is used, so a fault shows only
when the directives before it have been served.
-/

namespace SqlScript.Log

inductive TemplateFault where
  | tooFewArguments
  | tooManyArguments
  /-- A directive may name its argument only where arguments have names. -/
  | namedArgument
  | incomplete
  | unsupported (conversion : Char) (index : Nat)
  /-- A width or precision that an argument gives must be an integer. -/
  | sizeType
  | realExpected (conversion : Char) (typeName : String)
  | integerExpected (conversion : Char) (typeName : String)
  | floatExpected (typeName : String)
  | characterExpected
  | characterRange
deriving DecidableEq, Repr

namespace TemplateFault

def message : TemplateFault → String
  | .tooFewArguments => "not enough arguments for format string"
  | .tooManyArguments => "not all arguments converted during string formatting"
  | .namedArgument => "format requires a mapping"
  | .incomplete => "incomplete format"
  | .unsupported c index =>
    let code := String.ofList (Text.hexadecimal 0 c.toNat)
    let shown := if c.toNat < 0x1F ∨ 0x7E < c.toNat then "?" else String.singleton c
    s!"unsupported format character '{shown}' (0x{code}) at index {index}"
  | .sizeType => "* wants int"
  | .realExpected c typeName => s!"%{c} format: a real number is required, not {typeName}"
  | .integerExpected c typeName => s!"%{c} format: an integer is required, not {typeName}"
  | .floatExpected typeName => s!"must be real number, not {typeName}"
  | .characterExpected => "%c requires int or char"
  | .characterRange => "%c arg not in range(0x110000)"

end TemplateFault

/-- A width or a precision, or the wish to take it from the arguments. -/
inductive Size where
  | given (n : Nat)
  | argument
deriving DecidableEq, Repr

structure Directive where
  flags : List Char
  width : Size
  precision : Option Size
  /-- The letter that says what kind of text to make, and its index; none at the end. -/
  conversion : Option (Char × Nat)
deriving Repr

inductive Piece where
  | text (c : Char)
  | directive (d : Directive)
  | named
deriving Repr

namespace Template

def isFlag (c : Char) : Bool :=
  ['-', '+', ' ', '#', '0'].contains c

def size (s : List Char) : Size × List Char :=
  match s with
  | '*' :: rest => (.argument, rest)
  | _ => (.given (Decimal.ofDigits (s.takeWhile Char.isDigit)), s.dropWhile Char.isDigit)

/-- A letter for the size of the argument, which says nothing here. -/
def dropModifier : List Char → List Char
  | c :: rest => if ['h', 'l', 'L'].contains c then rest else c :: rest
  | [] => []

/-- The directive after a percent sign, and the text after its letter. `length` is that of the whole
template. -/
def directive (length : Nat) (s : List Char) : Directive × List Char :=
  let flags := s.takeWhile isFlag
  let width := size (s.dropWhile isFlag)
  let precision : Option Size × List Char := match width.2 with
    | '.' :: rest => (some (size rest).1, (size rest).2)
    | rest => (none, rest)
  match dropModifier precision.2 with
  | c :: rest => (⟨flags, width.1, precision.1, some (c, length - rest.length - 1)⟩, rest)
  | [] => (⟨flags, width.1, precision.1, none⟩, [])

theorem length_size_le (s : List Char) : (size s).2.length ≤ s.length := by
  unfold size
  split
  · simp
  · exact (List.dropWhile_suffix Char.isDigit).length_le

theorem length_dropModifier_le (s : List Char) : (dropModifier s).length ≤ s.length := by
  unfold dropModifier
  split
  · split <;> simp
  · simp

theorem length_directive_le (length : Nat) (s : List Char) :
    (directive length s).2.length ≤ s.length := by
  have hflags := (List.dropWhile_suffix isFlag (l := s)).length_le
  have hwidth := length_size_le (s.dropWhile isFlag)
  have hprecision : ∀ r : List Char, (match r with
      | '.' :: rest => (some (size rest).1, (size rest).2)
      | rest => ((none : Option Size), rest)).2.length ≤ r.length := by
    intro r
    split
    · next rest => exact Nat.le_trans (length_size_le rest) (by simp)
    · exact Nat.le_refl _
  have hlast := hprecision (size (s.dropWhile isFlag)).2
  unfold directive
  dsimp only
  split
  · next c rest h =>
    have := length_dropModifier_le (match (size (s.dropWhile isFlag)).2 with
      | '.' :: rest => (some (size rest).1, (size rest).2)
      | rest => ((none : Option Size), rest)).2
    rw [h] at this
    simp only [List.length_cons] at this
    dsimp only
    omega
  · simp

/-- The pieces of a template of the given length from some place on. -/
def pieces (length : Nat) : List Char → List Piece
  | [] => []
  | '%' :: '%' :: rest => .text '%' :: pieces length rest
  | '%' :: '(' :: _ => [.named]
  | '%' :: rest =>
    .directive (directive length rest).1 :: pieces length (directive length rest).2
  | c :: rest => .text c :: pieces length rest
termination_by s => s.length
decreasing_by
  · simp only [List.length_cons]
    omega
  · exact Nat.lt_succ_of_le (length_directive_le length rest)
  · simp

/-- What a directive needs to know beside its argument. -/
structure Style where
  flags : List Char
  width : Nat
  precision : Option Nat

def Style.has (style : Style) (flag : Char) : Bool :=
  style.flags.contains flag

/-- The sign of a number, where the flags may ask for one that is not negative. -/
def Style.sign (style : Style) (negative : Bool) : List Char :=
  if negative then ['-']
  else if style.has '+' then ['+']
  else if style.has ' ' then [' ']
  else []

/-- A text set to the left or to the right of its width. Zeros go between the opening of a number
and its digits. -/
def Style.fill (style : Style) (zeros : Bool) (opening body : List Char) : List Char :=
  let missing := style.width - (opening.length + body.length)
  if style.has '-' then opening ++ body ++ List.replicate missing ' '
  else if zeros && style.has '0' then opening ++ List.replicate missing '0' ++ body
  else List.replicate missing ' ' ++ opening ++ body

def Style.text (style : Style) (s : List Char) : List Char :=
  style.fill false [] (match style.precision with
    | some n => s.take n
    | none => s)

/-- An integer in a base, at least as many digits as the precision says. -/
def Style.integer (style : Style) (base : Nat) (letters : List Char) (n : Int) : List Char :=
  let ds := (Nat.toDigits base n.natAbs).leftpad (style.precision.getD 0) '0'
  style.fill true (style.sign (n < 0) ++ if style.has '#' then letters else []) ds

def upperCase (s : List Char) : List Char :=
  s.map Char.toUpper

def Style.float (style : Style) (conversion : Char) (x : Float) : List Char :=
  let f := Decimal.fieldsOf x
  let keep := style.has '#'
  let precision := style.precision.getD 6
  let body :=
    if f.exponent = 2047 then
      if f.fraction ≠ 0 then "nan".toList else "inf".toList
    else match conversion.toLower with
      | 'f' => Decimal.fixed (Decimal.magnitudeOf f) precision keep
      | 'e' => Decimal.scientific (Decimal.magnitudeOf f) precision keep
      | _ => Decimal.compact (Decimal.magnitudeOf f) precision keep
  let negative := f.negative && !(f.exponent == 2047 && f.fraction != 0)
  style.fill true (style.sign negative) (if conversion.isUpper then upperCase body else body)

/-- The integer that a number is, or that it is but for its fraction. -/
def truncate (x : Float) : Int :=
  let f := Decimal.fieldsOf x
  let n : Int := (Decimal.magnitudeOf f / Decimal.tenTo Decimal.unitExponent : Nat)
  if f.negative then -n else n

/-- A quoted form in the ASCII block. -/
def asciiOnly (s : List Char) : List Char :=
  s.flatMap fun c => if c.toNat < 0x80 then [c] else Text.numericEscape c

/-- The integer that a truth value or an integer stands for. -/
def integer? : Value → Option Int
  | .bool b => some (if b then 1 else 0)
  | .int n => some n
  | _ => none

def convert (style : Style) (conversion : Char) (index : Nat) (v : Value) :
    Except TemplateFault (List Char) :=
  match conversion with
  | 's' => .ok (style.text v.display)
  | 'r' => .ok (style.text v.inspect)
  | 'a' => .ok (style.text (asciiOnly v.inspect))
  | 'd' | 'i' | 'u' =>
    match integer? v, v with
    | some n, _ => .ok (style.integer 10 [] n)
    | none, .float x => .ok (style.integer 10 [] (truncate x))
    | none, _ => .error (.realExpected conversion v.typeName)
  | 'o' | 'x' | 'X' =>
    match integer? v with
    | some n =>
      let base := if conversion = 'o' then 8 else 16
      let s := style.integer base ['0', conversion.toLower] n
      .ok (if conversion = 'X' then upperCase s else s)
    | none => .error (.integerExpected conversion v.typeName)
  | 'e' | 'E' | 'f' | 'F' | 'g' | 'G' =>
    match integer? v, v with
    | some n, _ => .ok (style.float conversion (Float.ofInt n))
    | none, .float x => .ok (style.float conversion x)
    | none, _ => .error (.floatExpected v.typeName)
  | 'c' =>
    match integer? v, v with
    | some n, _ =>
      if 0 ≤ n ∧ n < 0x110000 then .ok (style.fill false [] [Char.ofNat n.toNat])
      else .error .characterRange
    | none, .text s =>
      if s.length = 1 then .ok (style.fill false [] s.toList) else .error .characterExpected
    | none, _ => .error .characterExpected
  | _ => .error (.unsupported conversion index)

/-- The arguments not yet used are the state of a rendering, in which faults end it. -/
abbrev Rendering := StateT (List Value) (Except TemplateFault)

def argument : Rendering Value := do
  match ← get with
  | [] => throw .tooFewArguments
  | v :: rest =>
    set rest
    return v

/-- A size as an integer, which may be negative if an argument gives it. -/
def resolve : Size → Rendering Int
  | .given n => return n
  | .argument => do
    match integer? (← argument) with
    | some n => return n
    | none => throw .sizeType

def renderDirective (d : Directive) : Rendering (List Char) := do
  let width ← resolve d.width
  let flags := if width < 0 then '-' :: d.flags else d.flags
  let precision ← d.precision.mapM resolve
  match d.conversion with
  | none => throw .incomplete
  | some (c, index) =>
    let v ← argument
    convert ⟨flags, width.natAbs, precision.map Int.toNat⟩ c index v

def renderPiece : Piece → Rendering (List Char)
  | .text c => return [c]
  | .directive d => renderDirective d
  | .named => throw .namedArgument

/-- A template with its arguments in their places. -/
def render (template : List Char) (args : List Value) : Except TemplateFault (List Char) := do
  let (parts, rest) ← ((pieces template.length template).mapM renderPiece).run args
  if rest.isEmpty then return parts.flatten else throw .tooManyArguments

/-- A message that is given no arguments is no template. -/
def message (template : List Char) (args : List Value) : Except TemplateFault (List Char) :=
  if args.isEmpty then .ok template else render template args

end Template

end SqlScript.Log
