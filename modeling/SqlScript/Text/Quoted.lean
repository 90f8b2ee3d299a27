import SqlScript.Text.Printable

/-!
Quoted forms of texts and of byte strings, for messages: between quotation marks, on one line, with
every character that does not show written as an escape.
-/

namespace SqlScript.Text

/-- The lower-case hexadecimal digits of a number, padded with zeros to a width. -/
def hexadecimal (width n : Nat) : List Char :=
  (Nat.toDigits 16 n).leftpad width '0'

/-- Single marks, unless the text has single marks and no double ones. -/
def quoteMark (s : List Char) : Char :=
  if s.contains '\'' && !s.contains '"' then '"' else '\''

/-- The escapes that a quoted text and a quoted byte string share. -/
def shortEscape? (mark c : Char) : Option (List Char) :=
  if c == mark || c == '\\' then some ['\\', c]
  else if c == '\n' then some ['\\', 'n']
  else if c == '\r' then some ['\\', 'r']
  else if c == '\t' then some ['\\', 't']
  else none

/-- The shortest of the three numeric escapes that holds the code point. -/
def numericEscape (c : Char) : List Char :=
  if c.toNat < 0x100 then ['\\', 'x'] ++ hexadecimal 2 c.toNat
  else if c.toNat < 0x10000 then ['\\', 'u'] ++ hexadecimal 4 c.toNat
  else ['\\', 'U'] ++ hexadecimal 8 c.toNat

def quoteChar (mark c : Char) : List Char :=
  (shortEscape? mark c).getD (if isPrintable c then [c] else numericEscape c)

def quoted (s : List Char) : List Char :=
  let mark := quoteMark s
  mark :: s.flatMap (quoteChar mark) ++ [mark]

/-- A byte past the ASCII block never shows, whatever character has its number. -/
def quoteByte (mark : Char) (b : UInt8) : List Char :=
  let c := Char.ofNat b.toNat
  (shortEscape? mark c).getD (if b < 0x80 && isPrintable c then [c] else numericEscape c)

def quotedBytes (bytes : List UInt8) : List Char :=
  let mark := quoteMark (bytes.map fun b => Char.ofNat b.toNat)
  'b' :: mark :: bytes.flatMap (quoteByte mark) ++ [mark]

end SqlScript.Text
