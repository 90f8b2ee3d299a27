import SqlScript.Json
import SqlScript.Token.Scan

/-!
Reading JSON text. A number with a fraction or an exponent is a floating-point number, and any other
is an integer.
-/

namespace SqlScript.Json

def skipBlank (s : List Char) : List Char :=
  s.dropWhile fun c => c == ' ' || c == '\t' || c == '\n' || c == '\r'

def hexValue? (c : Char) : Option Nat :=
  if '0' ≤ c ∧ c ≤ '9' then some (c.toNat - '0'.toNat)
  else if 'a' ≤ c ∧ c ≤ 'f' then some (c.toNat - 'a'.toNat + 10)
  else if 'A' ≤ c ∧ c ≤ 'F' then some (c.toNat - 'A'.toNat + 10)
  else none

def hexValues? (cs : List Char) : Option Nat :=
  cs.foldlM (fun n c => (hexValue? c).map (16 * n + ·)) 0

/-- The character that a backslash and a letter stand for. -/
def letterEscape? : Char → Option Char
  | '"' => some '"'
  | '\\' => some '\\'
  | '/' => some '/'
  | 'b' => some '\x08'
  | 'f' => some '\x0c'
  | 'n' => some '\n'
  | 'r' => some '\r'
  | 't' => some '\t'
  | _ => none

/-- The code units of a text up to its closing quotation mark, and what follows the mark. -/
def units? : List Char → Option (List Nat × List Char)
  | [] => none
  | '"' :: rest => some ([], rest)
  | '\\' :: 'u' :: a :: b :: c :: d :: rest => do
    let unit ← hexValues? [a, b, c, d]
    let (others, rest) ← units? rest
    return (unit :: others, rest)
  | '\\' :: letter :: rest => do
    let c ← letterEscape? letter
    let (others, rest) ← units? rest
    return (c.toNat :: others, rest)
  | c :: rest =>
    if c.toNat < 0x20 then none
    else do
      let (others, rest) ← units? rest
      return (c.toNat :: others, rest)

/-- The characters of code units, where a high surrogate and a low one make one character. -/
def ofUnits? : List Nat → Option (List Char)
  | [] => some []
  | [unit] => if unit.isValidChar then some [Char.ofNat unit] else none
  | high :: low :: rest =>
    if 0xD800 ≤ high ∧ high < 0xDC00 ∧ 0xDC00 ≤ low ∧ low < 0xE000 then
      (ofUnits? rest).map
        (Char.ofNat (0x10000 + (high - 0xD800) * 0x400 + (low - 0xDC00)) :: ·)
    else if high.isValidChar then (ofUnits? (low :: rest)).map (Char.ofNat high :: ·)
    else none

def readText? (s : List Char) : Option (String × List Char) := do
  let (units, rest) ← units? s
  let cs ← ofUnits? units
  return (String.ofList cs, rest)

/-- A number without its sign. -/
def readMagnitude? (negative : Bool) (s : List Char) : Option (Json × List Char) :=
  let whole := Scan.splitRun Char.isDigit s
  let fraction := Scan.splitFraction whole.2
  let exponent := Scan.splitExponent fraction.2
  if whole.1 = [] ∨ (whole.1.head? = some '0' ∧ whole.1.length > 1) ∨ fraction.1 = ['.'] then none
  else if fraction.1 = [] ∧ exponent.1 = [] then
    let n : Int := Decimal.ofDigits whole.1
    some (.int (if negative then -n else n), exponent.2)
  else
    let places := fraction.1.drop 1
    let shift : Int := Decimal.ofDigits (exponent.1.filter Char.isDigit)
    let power := (if exponent.1.contains '-' then -shift else shift) - places.length
    let x := Float.ofScientific (Decimal.ofDigits (whole.1 ++ places)) (power < 0) power.natAbs
    some (.float (if negative then -x else x), exponent.2)

def readNumber? : List Char → Option (Json × List Char)
  | '-' :: rest => readMagnitude? true rest
  | s => readMagnitude? false s

mutual

/-- A value at the start of a text, and what follows it; the first argument bounds the depth of the
value and the length of its collections. -/
def readValue? : Nat → List Char → Option (Json × List Char)
  | 0, _ => none
  | fuel + 1, s =>
    match skipBlank s with
    | 'n' :: 'u' :: 'l' :: 'l' :: rest => some (.null, rest)
    | 't' :: 'r' :: 'u' :: 'e' :: rest => some (.bool true, rest)
    | 'f' :: 'a' :: 'l' :: 's' :: 'e' :: rest => some (.bool false, rest)
    | '"' :: rest => (readText? rest).map fun r => (.text r.1, r.2)
    | '[' :: rest =>
      match skipBlank rest with
      | ']' :: rest => some (.array [], rest)
      | rest => (readItems? fuel rest).map fun r => (.array r.1, r.2)
    | '\x7b' :: rest =>
      match skipBlank rest with
      | '\x7d' :: rest => some (.object [], rest)
      | rest => (readMembers? fuel rest).map fun r => (.object r.1, r.2)
    | rest => readNumber? rest

/-- The items of an array from the next one on, and what follows its closing bracket. -/
def readItems? : Nat → List Char → Option (List Json × List Char)
  | 0, _ => none
  | fuel + 1, s => do
    let (item, rest) ← readValue? fuel s
    match skipBlank rest with
    | ']' :: rest => return ([item], rest)
    | ',' :: rest =>
      let (items, rest) ← readItems? fuel rest
      return (item :: items, rest)
    | _ => none

/-- The members of an object from the next one on, and what follows its closing brace. -/
def readMembers? : Nat → List Char → Option (List (String × Json) × List Char)
  | 0, _ => none
  | fuel + 1, s =>
    match skipBlank s with
    | '"' :: rest => do
      let (name, rest) ← readText? rest
      match skipBlank rest with
      | ':' :: rest =>
        let (item, rest) ← readValue? fuel rest
        match skipBlank rest with
        | '\x7d' :: rest => return ([(name, item)], rest)
        | ',' :: rest =>
          let (members, rest) ← readMembers? fuel rest
          return ((name, item) :: members, rest)
        | _ => none
      | _ => none
    | _ => none

end

/-- The data that a whole text stands for, if it is JSON. -/
def read? (s : List Char) : Option Json :=
  match readValue? (s.length + 1) s with
  | some (json, rest) => if skipBlank rest = [] then some json else none
  | none => none

end SqlScript.Json
