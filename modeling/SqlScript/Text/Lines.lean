import SqlScript.Text.CharClass
import SqlScript.Text.Width

/-!
Line ends, and lines as a terminal shows them.
-/

namespace SqlScript.Text

/-- Makes one line feed of every line end: a carriage return, alone or before a line feed. -/
def normalizeNewlines : List Char → List Char
  | [] => []
  | '\r' :: '\n' :: rest => '\n' :: normalizeNewlines rest
  | '\r' :: rest => '\n' :: normalizeNewlines rest
  | c :: rest => c :: normalizeNewlines rest

/-- The controls that a terminal does not show. -/
def isHiddenControl (c : Char) : Bool :=
  ['\x07', '\x08', '\x0b', '\x0c', '\x0d'].contains c

/-- The distance between tab stops. -/
def tabWidth : Nat := 8

/-- Spaces in place of tabs, for a text that starts in a column counted from zero. A tab fills at
least one cell. -/
def expandTabs (column : Nat) : List Char → List Char
  | [] => []
  | '\t' :: rest =>
    let spaces := tabWidth - column % tabWidth
    List.replicate spaces ' ' ++ expandTabs (column + spaces) rest
  | c :: rest => c :: expandTabs (column + cellWidth c) rest

/-- The lines of a text without the line feeds between them. -/
def lines : List Char → List (List Char)
  | [] => [[]]
  | c :: rest =>
    if c = '\n' then [] :: lines rest
    else match lines rest with
      | [] => [[c]]
      | line :: others => (c :: line) :: others

/-- A line without the white space at its end, as far as that reaches past the width. -/
def cropSpace (width : Nat) (line : List Char) : List Char :=
  let blank := (line.reverse.takeWhile isSpace).length
  line.take (line.length - min blank (line.length - width))

/-- A text as a terminal of some width shows it. Lines are not broken, however long they are; their
width is counted in characters. -/
def shown (width : Nat) (s : List Char) : List Char :=
  List.intercalate ['\n']
    ((lines (s.filter fun c => !isHiddenControl c)).map fun line =>
      cropSpace width (expandTabs 0 line))

end SqlScript.Text
