import SqlScript.Options
import SqlScript.Segment

/-!
Statements: the texts of the segments of a script, filtered and trimmed as the options say.
-/

namespace SqlScript

structure Statement where
  text : List Char
  placeholders : Nat
deriving DecidableEq, Repr

/-- Nothing but white space, semicolons and slashes. -/
def isBlank (s : List Char) : Bool :=
  s.all fun c => Text.isSpace c || c == ';' || c == '/'

/-- The tokens before a slash, nearest first, without the semicolon that the slash completes. -/
def dropSemicolon : List Token → List Token
  | [] => []
  | t :: before =>
    if t.kind = .terminator then before
    else if t.isSignificant then t :: before
    else t :: dropSemicolon before

/-- The tokens of a statement without its terminator: the last significant token, if that is a
semicolon or a separating slash, and a semicolon right before the slash. -/
def dropTerminator (tokens : List Token) : List Token :=
  let layout := tokens.reverse.takeWhile fun t => !t.isSignificant
  match tokens.reverse.dropWhile fun t => !t.isSignificant with
  | [] => tokens
  | t :: before =>
    if Cursor.isTerminator ⟨before, t, layout.reverse⟩ then
      (if t.kind = .separator then dropSemicolon before else before).reverse ++ layout.reverse
    else tokens

/-- A statement without its terminator; all else in it stays. -/
def stripTerminator (s : List Char) : List Char :=
  textOf (dropTerminator (tokens s))

def Segment.text (segment : Segment) (keepComments : Bool) : List Char :=
  textOf (segment.tokens.filter fun t => keepComments || !t.isComment)

def Segment.statement (segment : Segment) (keepComments : Bool) : Statement :=
  ⟨segment.text keepComments, segment.placeholders⟩

namespace Statement

def isBlank (s : Statement) : Bool :=
  SqlScript.isBlank s.text

def mapText (f : List Char → List Char) (s : Statement) : Statement :=
  { s with text := f s.text }

end Statement

/-- The trimming that the options ask for. -/
def Options.trim (o : Options) (s : List Char) : List Char :=
  let stripped := if o.keepTerminator then s else stripTerminator s
  if o.keepExtraSpaces then stripped else Text.trim stripped

/-- The statements of a list of segments as they stand, with or without their comments. -/
def Options.raw (o : Options) (segments : List Segment) : List Statement :=
  segments.map (·.statement o.keepComments)

/-- The statements of a list of segments; blank ones are dropped before any trimming. -/
def Options.statements (o : Options) (segments : List Segment) : List Statement :=
  ((o.raw segments).filter fun s => o.keepEmptyStatements || !s.isBlank).map (·.mapText o.trim)

/-- The statements of a script, the nesting at its end, and the number of its characters. -/
structure Splitting where
  statements : List Statement
  ending : Nesting
  characters : Nat
deriving DecidableEq, Repr

def split (o : Options) (script : List Char) : Splitting :=
  let found := segments (tokens script)
  ⟨o.statements found.1, found.2, script.length⟩

namespace Splitting

def texts (s : Splitting) : List (List Char) :=
  s.statements.map (·.text)

def counts (s : Splitting) : List Nat :=
  s.statements.map (·.placeholders)

/-- The placeholders of all statements together. -/
def placeholders (s : Splitting) : Nat :=
  s.counts.foldr (· + ·) 0

end Splitting

end SqlScript
