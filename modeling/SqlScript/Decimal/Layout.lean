import SqlScript.Decimal.Shortest

/-!
Texts of floating-point numbers. A layout says which numbers are written without an exponent, how an
exponent looks, and what stands for the numbers that are not finite.
-/

namespace SqlScript.Decimal

structure Layout where
  /-- The least place of the point that needs no exponent. -/
  lowest : Int
  /-- The greatest place of the point that needs no exponent. -/
  highest : Int
  exponent : Int → List Char
  infinity : List Char
  negativeInfinity : List Char
  notANumber : List Char

/-- Without an exponent, a digit stands on each side of the point. -/
def positional (p : Pointed) : List Char :=
  if p.point ≤ 0 then '0' :: '.' :: List.replicate (-p.point).toNat '0' ++ p.digits
  else if p.point < p.digits.length then
    p.digits.take p.point.toNat ++ '.' :: p.digits.drop p.point.toNat
  else p.digits ++ List.replicate (p.point.toNat - p.digits.length) '0' ++ ['.', '0']

/-- The point stands after the first digit, if there are more. -/
def significand : List Char → List Char
  | d :: e :: rest => d :: '.' :: e :: rest
  | ds => ds

def signed (negative : Bool) (s : List Char) : List Char :=
  if negative then '-' :: s else s

def Layout.magnitude (layout : Layout) (p : Pointed) : List Char :=
  if layout.lowest ≤ p.point ∧ p.point ≤ layout.highest then positional p
  else significand p.digits ++ 'e' :: layout.exponent (p.point - 1)

def Layout.text (layout : Layout) (x : Float) : List Char :=
  let f := fieldsOf x
  if f.exponent = 2047 then
    if f.fraction ≠ 0 then layout.notANumber
    else if f.negative then layout.negativeInfinity
    else layout.infinity
  else if f.exponent = 0 ∧ f.fraction = 0 then signed f.negative ['0', '.', '0']
  else signed f.negative (layout.magnitude (Rounding.ofFields f.exponent f.fraction).pointed)

/-- An integer with a sign, if it is negative. -/
def integer (n : Int) : List Char :=
  signed (n < 0) (digits n.natAbs)

/-- An exponent with its sign and at least two digits. -/
def paddedExponent (n : Int) : List Char :=
  (if n < 0 then '-' else '+') :: (digits n.natAbs).leftpad 2 '0'

/-- Numbers shown to people: from `10 ^ -4` to below `10 ^ 16` without an exponent. -/
def display : Layout :=
  ⟨-3, 16, paddedExponent, "inf".toList, "-inf".toList, "nan".toList⟩

end SqlScript.Decimal
