import SqlScript.Json

/-!
Compact JSON text. Only quotation marks, backslashes and controls are escaped.
-/

namespace SqlScript.Json

/-- The escapes of one letter. -/
def letterEscapes : List (Char × Char) :=
  [('"', '"'), ('\\', '\\'), ('\x08', 'b'), ('\x0c', 'f'), ('\n', 'n'), ('\r', 'r'), ('\t', 't')]

def escapeChar (c : Char) : List Char :=
  match letterEscapes.lookup c with
  | some letter => ['\\', letter]
  | none => if c.toNat < 0x20 then ['\\', 'u'] ++ Text.hexadecimal 4 c.toNat else [c]

def writeText (s : List Char) : List Char :=
  '"' :: s.flatMap escapeChar ++ ['"']

mutual

def write : Json → List Char
  | .null => "null".toList
  | .bool true => "true".toList
  | .bool false => "false".toList
  | .int n => Decimal.integer n
  | .float x => numberLayout.text x
  | .text s => writeText s.toList
  | .array items => '[' :: writeItems items ++ [']']
  | .object members => '\x7b' :: writeMembers members ++ ['\x7d']

def writeItems : List Json → List Char
  | [] => []
  | [item] => write item
  | item :: rest => write item ++ ',' :: writeItems rest

def writeMembers : List (String × Json) → List Char
  | [] => []
  | [(name, item)] => writeText name.toList ++ ':' :: write item
  | (name, item) :: rest => writeText name.toList ++ ':' :: write item ++ ',' :: writeMembers rest

end

end SqlScript.Json
