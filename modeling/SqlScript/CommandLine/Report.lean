import SqlScript.Json.Writer
import SqlScript.Statement
import SqlScript.Text.Lines

/-!
The two forms in which the command prints statements: JSON, and text with a titled rule above each
statement.
-/

namespace SqlScript.CommandLine

def statementJson (s : Statement) (placeholders : Bool) : Json :=
  let text := Json.text (String.ofList s.text)
  if placeholders then .object [("statement", text), ("placeholders", .int s.placeholders)]
  else text

/-- The statements as one line of JSON. -/
def jsonReport (placeholders : Bool) (statements : List Statement) : List Char :=
  (Json.array (statements.map (statementJson · placeholders))).write ++ ['\n']

/-- The number of columns of the terminal, all of which a rule fills. -/
def terminalWidth : Nat := 80

/-- A title in the middle of a line, with the odd column on its right. -/
def rule (title : List Char) : List Char :=
  let left := (terminalWidth - title.length - 2) / 2
  let right := terminalWidth - title.length - 2 - left
  List.replicate left '─' ++ ' ' :: title ++ ' ' :: List.replicate right '─' ++ ['\n']

def title (number : Nat) (s : Statement) (placeholders : Bool) : List Char :=
  let plural := if s.placeholders = 1 then "" else "s"
  let count := if placeholders then s!" ({s.placeholders} placeholder{plural})" else ""
  s!"Statement {number}{count}".toList

/-- The statements from one with a given number on. -/
def textReport (placeholders : Bool) (number : Nat) : List Statement → List Char
  | [] => []
  | s :: rest =>
    rule (title number s placeholders) ++ Text.shown terminalWidth s.text ++ '\n' ::
      textReport placeholders (number + 1) rest

end SqlScript.CommandLine
