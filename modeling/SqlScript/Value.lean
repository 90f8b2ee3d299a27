import SqlScript.Decimal.Layout
import SqlScript.Text.Quoted

/-!
Values of any type, as callers hand them to options, error messages and log records, and their
texts.
-/

namespace SqlScript

inductive Value where
  | null
  | bool (b : Bool)
  | int (n : Int)
  | float (x : Float)
  | text (s : String)
  | list (items : List Value)
  | tuple (items : List Value)
  | map (entries : List (Value × Value))
  | bytes (data : List UInt8)
  | complex (re im : Float)
  /-- An object without contents. -/
  | handle
deriving Repr, Inhabited

namespace Value

def typeName : Value → String
  | .null => "NoneType"
  | .bool _ => "bool"
  | .int _ => "int"
  | .float _ => "float"
  | .text _ => "str"
  | .list _ => "list"
  | .tuple _ => "tuple"
  | .map _ => "dict"
  | .bytes _ => "bytes"
  | .complex _ _ => "complex"
  | .handle => "object"

/-- Zeros, empty texts and empty collections do not hold, and neither does the null value. -/
def holds : Value → Bool
  | .null => false
  | .bool b => b
  | .int n => n != 0
  | .float x => x != 0
  | .text s => !s.isEmpty
  | .list items => !items.isEmpty
  | .tuple items => !items.isEmpty
  | .map entries => !entries.isEmpty
  | .bytes data => !data.isEmpty
  | .complex re im => re != 0 || im != 0
  | .handle => true

/-- A part of a complex number has no fraction when it is a whole number. -/
def partText (x : Float) : List Char :=
  let s := Decimal.display.text x
  if ['0', '.'].isPrefixOf s.reverse then s.dropLast.dropLast else s

def complexText (re im : Float) : List Char :=
  let imaginary := partText im ++ ['j']
  if re == 0 && re.toBits == 0 then imaginary
  else
    let sign := if imaginary.head? = some '-' then [] else ['+']
    '(' :: partText re ++ sign ++ imaginary ++ [')']

/-- The texts with a comma and a space between them. -/
def commaSeparated (items : List (List Char)) : List Char :=
  List.intercalate [',', ' '] items

mutual

/-- The text of a value inside a collection. -/
def inspect : Value → List Char
  | .null => "None".toList
  | .bool true => "True".toList
  | .bool false => "False".toList
  | .int n => Decimal.integer n
  | .float x => Decimal.display.text x
  | .text s => Text.quoted s.toList
  | .list items => '[' :: commaSeparated (inspectAll items) ++ [']']
  | .tuple [item] => '(' :: inspect item ++ [',', ')']
  | .tuple items => '(' :: commaSeparated (inspectAll items) ++ [')']
  | .map entries => '\x7b' :: commaSeparated (inspectEntries entries) ++ ['\x7d']
  | .bytes data => Text.quotedBytes data
  | .complex re im => complexText re im
  | .handle => "<object>".toList

def inspectAll : List Value → List (List Char)
  | [] => []
  | v :: rest => inspect v :: inspectAll rest

def inspectEntries : List (Value × Value) → List (List Char)
  | [] => []
  | (k, v) :: rest => (inspect k ++ ':' :: ' ' :: inspect v) :: inspectEntries rest

end

/-- The text of a value by itself: a text shows without quotation marks. -/
def display : Value → List Char
  | .text s => s.toList
  | v => inspect v

/-- Keys that are equal numbers are the same key, and truth values count as numbers. -/
def sameKey : Value → Value → Bool
  | .null, .null => true
  | .bool a, .bool b => a == b
  | .bool a, .int n | .int n, .bool a => n == (if a then 1 else 0)
  | .bool a, .float x | .float x, .bool a => x == (if a then 1 else 0)
  | .int m, .int n => m == n
  | .int n, .float x | .float x, .int n => x == Float.ofInt n
  | .float x, .float y => x == y
  | .text s, .text t => s == t
  | .bytes a, .bytes b => a == b
  | _, _ => false

/-- Sets a key of a map: a new key goes last, and an old one keeps its place and spelling. -/
def setKey (k v : Value) : List (Value × Value) → List (Value × Value)
  | [] => [(k, v)]
  | e :: rest => if e.1.sameKey k then (e.1, v) :: rest else e :: setKey k v rest

/-- The map in which the last entry with a key sets its value. -/
def ofEntries (entries : List (Value × Value)) : Value :=
  .map (entries.foldl (fun map e => setKey e.1 e.2 map) [])

end Value

/-- Named values in the order in which they are given. -/
abbrev Named := List (String × Value)

namespace Named

/-- Sets a name: a new name goes last, and an old one keeps its place. -/
def set (name : String) (v : Value) : Named → Named
  | [] => [(name, v)]
  | e :: rest => if e.1 = name then (name, v) :: rest else e :: set name v rest

/-- The names in order of their first appearance, each with its last value. -/
def merge (base changes : Named) : Named :=
  changes.foldl (fun named e => named.set e.1 e.2) base

end Named

end SqlScript
