import SqlScript.Decimal.Layout

/-!
Floating-point numbers with a given number of places. Rounding is exact: a number halfway between
two texts goes to the one with an even last digit.
-/

namespace SqlScript.Decimal

/-- The multiple of a unit nearest to a number, an exact tie going to the even one. -/
def roundTo (n unit : Nat) : Nat :=
  let d := n / unit
  let twice := 2 * (n % unit)
  if unit < twice ∨ (twice = unit ∧ d % 2 = 1) then d + 1 else d

/-- The magnitude of a finite number in units of `10 ^ -unitExponent`. -/
def magnitudeOf (f : Fields) : Nat :=
  (Rounding.ofFields f.exponent f.fraction).value

/-- Digits with a point before the last `places` of them; `keepPoint` writes a point even where
nothing follows it. -/
def withPoint (places : Nat) (keepPoint : Bool) (ds : List Char) : List Char :=
  let padded := ds.leftpad (places + 1) '0'
  let whole := padded.take (padded.length - places)
  let fraction := padded.drop (padded.length - places)
  if fraction = [] then (if keepPoint then whole ++ ['.'] else whole) else whole ++ '.' :: fraction

def fixed (magnitude places : Nat) (keepPoint : Bool) : List Char :=
  withPoint places keepPoint (digits (roundTo (magnitude * tenTo places) (tenTo unitExponent)))

/-- The first `places + 1` digits of a number, and the exponent of the first one. -/
def leading (magnitude places : Nat) : Nat × Int :=
  if magnitude = 0 then (0, 0)
  else
    let top := (digits magnitude).length - 1
    let n := roundTo (magnitude * tenTo places) (tenTo top)
    let exponent : Int := (top : Int) - unitExponent
    if n = tenTo (places + 1) then (n / 10, exponent + 1) else (n, exponent)

def scientific (magnitude places : Nat) (keepPoint : Bool) : List Char :=
  let found := leading magnitude places
  withPoint places keepPoint (digits found.1) ++ 'e' :: paddedExponent found.2

/-- A text without the zeros at its end, nor a point that they leave at its end. -/
def dropZeros (s : List Char) : List Char :=
  if s.contains '.' then
    match s.reverse.dropWhile (· == '0') with
    | '.' :: rest => rest.reverse
    | rest => rest.reverse
  else s

/-- A number with a given number of digits, and an exponent only if it is small or large for them;
`keepZeros` keeps the zeros at its end. -/
def compact (magnitude precision : Nat) (keepZeros : Bool) : List Char :=
  let count := max precision 1
  let exponent := (leading magnitude (count - 1)).2
  let shorten (s : List Char) : List Char := if keepZeros then s else dropZeros s
  if -4 ≤ exponent ∧ exponent < count then
    shorten (fixed magnitude ((count : Int) - 1 - exponent).toNat keepZeros)
  else
    let found := leading magnitude (count - 1)
    shorten (withPoint (count - 1) keepZeros (digits found.1)) ++ 'e' :: paddedExponent found.2

end SqlScript.Decimal
