import SqlScript.Text.LetterCase
import SqlScript.Text.Quoted

/-!
Tokens: verbatim slices of a script, each of one lexical kind, and the place where they stand.
-/

namespace SqlScript

inductive Kind where
  | lineComment
  | blockComment
  | stringLiteral
  | quotedName
  | placeholder
  | terminator
  | separator
  | word
  | space
  | other
deriving DecidableEq, Repr

namespace Kind

def all : List Kind :=
  [.lineComment, .blockComment, .stringLiteral, .quotedName, .placeholder, .terminator,
   .separator, .word, .space, .other]

def name : Kind → String
  | .lineComment => "COMMENT_LINE"
  | .blockComment => "COMMENT_BLOCK"
  | .stringLiteral => "STRING_LITERAL"
  | .quotedName => "QUOTED_IDENTIFIER"
  | .placeholder => "PLACEHOLDER"
  | .terminator => "TERMINATOR"
  | .separator => "BLOCK_SEPARATOR"
  | .word => "WORD"
  | .space => "WHITESPACE"
  | .other => "OTHER"

def ofName? (s : String) : Option Kind :=
  all.find? (·.name == s)

end Kind

structure Token where
  kind : Kind
  text : List Char
deriving DecidableEq, Repr

namespace Token

def isComment (t : Token) : Bool :=
  t.kind == .lineComment || t.kind == .blockComment

/-- White space and comments are layout; all other tokens carry meaning. -/
def isSignificant (t : Token) : Bool :=
  !(t.kind == .space || t.isComment)

/-- The upper-case form of a word, and the empty text for a token of another kind. -/
def capitals (t : Token) : String :=
  if t.kind = .word then String.ofList (Text.upper t.text) else ""

def hasNewline (t : Token) : Bool :=
  t.text.contains '\n'

end Token

/-- A script is the concatenation of the texts of its tokens. -/
def textOf (tokens : List Token) : List Char :=
  tokens.flatMap (·.text)

/-- A place in a script: the characters before it, and its line and column counted from one. -/
structure Position where
  offset : Nat
  line : Nat
  column : Nat
deriving DecidableEq, Repr

namespace Position

def start : Position := ⟨0, 1, 1⟩

/-- Only a line feed ends a line. -/
def next (p : Position) (c : Char) : Position :=
  if c = '\n' then ⟨p.offset + 1, p.line + 1, 1⟩ else ⟨p.offset + 1, p.line, p.column + 1⟩

def after (p : Position) (s : List Char) : Position :=
  s.foldl next p

end Position

structure PlacedToken where
  token : Token
  position : Position
deriving DecidableEq, Repr

namespace PlacedToken

/-- Tokens are the same when kind, text and offset agree: line and column follow from the script. -/
def same (a b : PlacedToken) : Bool :=
  a.token == b.token && a.position.offset == b.position.offset

def describe (t : PlacedToken) : String :=
  s!"Token({t.token.kind.name}, {String.ofList (Text.quoted t.token.text)}, " ++
    s!"{t.position.line}:{t.position.column})"

end PlacedToken

/-- Consecutive tokens, each placed where the one before it ends. -/
def place (p : Position) : List Token → List PlacedToken
  | [] => []
  | t :: rest => ⟨t, p⟩ :: place (p.after t.text) rest

end SqlScript
