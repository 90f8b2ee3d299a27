/-!
The shortest decimal numbers that read back as given binary floating-point numbers. Every number of
double precision, and every midpoint between two of them, is a whole multiple of `10 ^ -1076`, so
all comparisons are between natural numbers in that unit.
-/

namespace SqlScript.Decimal

/-- The unit is `10` to the power `-unitExponent`. -/
def unitExponent : Nat := 1076

/-- The powers of ten. -/
def tenTo (n : Nat) : Nat :=
  Nat.pow 10 n

/-- A positive number and the interval of the reals that round to it, ends included or not. -/
structure Rounding where
  low : Nat
  value : Nat
  high : Nat
  closed : Bool

namespace Rounding

def contains (r : Rounding) (n : Nat) : Bool :=
  if r.closed then r.low ≤ n && n ≤ r.high else r.low < n && n < r.high

/-- The multiple of `unit` in the interval that is nearest to the number; an exact tie goes to the
even multiple. -/
def nearest? (r : Rounding) (unit : Nat) : Option Nat :=
  let d := r.value / unit
  let below := r.value - d * unit
  let above := (d + 1) * unit - r.value
  if r.contains (d * unit) then
    if r.contains ((d + 1) * unit) && (above < below || (above == below && d % 2 == 1)) then
      some (d + 1)
    else some d
  else if r.contains ((d + 1) * unit) then some (d + 1)
  else none

/-- The nearest multiple of the highest power of ten, up to a given one, that has a multiple in the
interval, and the exponent of that power. -/
def shortest (r : Rounding) : Nat → Nat × Nat
  | 0 => (r.value, 0)
  | j + 1 =>
    match r.nearest? (tenTo (j + 1)) with
    | some d => (d, j + 1)
    | none => r.shortest j

/-- The interval of a positive number of double precision, from its fields. The neighbour below a
power of two is half as far as the one above. -/
def ofFields (exponent fraction : Nat) : Rounding :=
  let mantissa := if exponent = 0 then fraction else fraction + 0x10000000000000
  let scale := Nat.pow 2 (exponent - 1) * Nat.pow 5 unitExponent
  { low := (4 * mantissa - if fraction = 0 ∧ 1 < exponent then 1 else 2) * scale
    value := 4 * mantissa * scale
    high := (4 * mantissa + 2) * scale
    closed := mantissa % 2 == 0 }

end Rounding

/-- The decimal digits of a natural number. -/
def digits (n : Nat) : List Char :=
  Nat.toDigits 10 n

/-- The value of a run of decimal digits. -/
def ofDigits (s : List Char) : Nat :=
  s.foldl (fun n c => 10 * n + (c.toNat - '0'.toNat)) 0

/-- A positive number as digits with a decimal point, which stands after the first `point` of them,
or before or past them all. -/
structure Pointed where
  digits : List Char
  point : Int

/-- The shortest digits of a positive number. -/
def Rounding.pointed (r : Rounding) : Pointed :=
  let found := r.shortest (digits r.high).length
  let ds := digits found.1
  ⟨ds, (ds.length + found.2 : Nat) - (unitExponent : Int)⟩

/-- The fields of a number of double precision: its sign, and its exponent and fraction of eleven
and 52 bits. -/
structure Fields where
  negative : Bool
  exponent : Nat
  fraction : Nat

def fieldsOf (x : Float) : Fields :=
  let bits := x.toBits.toNat
  ⟨bits >>> 63 == 1, (bits >>> 52) % 0x800, bits % 0x10000000000000⟩

end SqlScript.Decimal
