import SqlScript.Value

/-!
JSON data, where integers of any size stand apart from floating-point numbers, and the values that
have a JSON form.
-/

namespace SqlScript

inductive Json where
  | null
  | bool (b : Bool)
  | int (n : Int)
  | float (x : Float)
  | text (s : String)
  | array (items : List Json)
  | object (members : List (String × Json))
deriving Repr

namespace Json

/-- The standard alphabet of base 64. -/
def base64Digit (n : Nat) : Char :=
  if n < 26 then Char.ofNat ('A'.toNat + n)
  else if n < 52 then Char.ofNat ('a'.toNat + (n - 26))
  else if n < 62 then Char.ofNat ('0'.toNat + (n - 52))
  else if n = 62 then '+'
  else '/'

/-- Four digits for three bytes; equals signs stand for the digits that a last group lacks. -/
def base64 : List UInt8 → List Char
  | [] => []
  | [a] =>
    [base64Digit (a.toNat / 4), base64Digit (a.toNat % 4 * 16), '=', '=']
  | [a, b] =>
    [base64Digit (a.toNat / 4), base64Digit (a.toNat % 4 * 16 + b.toNat / 16),
     base64Digit (b.toNat % 16 * 4), '=']
  | a :: b :: c :: rest =>
    base64Digit (a.toNat / 4) :: base64Digit (a.toNat % 4 * 16 + b.toNat / 16) ::
      base64Digit (b.toNat % 16 * 4 + c.toNat / 64) :: base64Digit (c.toNat % 64) :: base64 rest

/-- Numbers in JSON: from `10 ^ -5` to below `10 ^ 16` without an exponent; JSON has no text for a
number that is not finite. -/
def numberLayout : Decimal.Layout :=
  ⟨-4, 16, Decimal.integer, "null".toList, "null".toList, "null".toList⟩

/-- The member name that a key of a map gives. -/
def keyName? : Value → Option String
  | .text s => some s
  | .int n => some (String.ofList (Decimal.integer n))
  | .float x => some (String.ofList (numberLayout.text x))
  | .bytes data => some (String.ofList (base64 data))
  | _ => none

mutual

/-- The JSON form of a value, unless a part of it has none. -/
def ofValue? : Value → Option Json
  | .null => some .null
  | .bool b => some (.bool b)
  | .int n => some (.int n)
  | .float x => some (.float x)
  | .text s => some (.text s)
  | .list items => (ofValues? items).map .array
  | .tuple items => (ofValues? items).map .array
  | .map entries => (ofEntries? entries).map .object
  | .bytes data => some (.text (String.ofList (base64 data)))
  | .complex _ _ => none
  | .handle => none

def ofValues? : List Value → Option (List Json)
  | [] => some []
  | v :: rest => do
    let item ← ofValue? v
    let items ← ofValues? rest
    return item :: items

def ofEntries? : List (Value × Value) → Option (List (String × Json))
  | [] => some []
  | (k, v) :: rest => do
    let name ← keyName? k
    let item ← ofValue? v
    let members ← ofEntries? rest
    return (name, item) :: members

end

end Json

end SqlScript
