import SqlScript.Keyword

/-!
A token among its neighbours, and what its neighbours say about it. All looking around passes over
layout; only `startsLine` asks whether the layout has a line feed.
-/

namespace SqlScript

/-- A token of a script with the tokens before it, nearest first, and those after it. -/
structure Cursor where
  before : List Token
  token : Token
  after : List Token

/-- The cursors of all tokens of a list that stands after `before`. -/
def cursorsFrom (before : List Token) : List Token → List Cursor
  | [] => []
  | t :: rest => ⟨before, t, rest⟩ :: cursorsFrom (t :: before) rest

def cursors (tokens : List Token) : List Cursor :=
  cursorsFrom [] tokens

/-- The first significant token from an index on, with its own index, passing over the words whose
upper-case form is listed. -/
def nextSignificant? (tokens : List Token) (start : Nat) (skip : List String) :
    Option (Nat × Token) :=
  ((tokens.zipIdx.drop start).find? fun entry =>
    entry.1.isSignificant && !skip.contains entry.1.capitals).map fun entry => (entry.2, entry.1)

namespace Cursor

def following? (c : Cursor) : Option Token :=
  c.after.find? (·.isSignificant)

def preceding? (c : Cursor) : Option Token :=
  c.before.find? (·.isSignificant)

/-- `BEGIN` opens a block unless a transaction begins with it. -/
def opensBegin (c : Cursor) : Bool :=
  c.token.keyword == .blockBegin && c.following?.all fun t =>
    t.kind != .terminator && t.kind != .separator && t.keyword != .transaction

/-- `CASE` opens a block unless it is the tail of an `END CASE`. -/
def opensCase (c : Cursor) : Bool :=
  c.token.keyword == .caseOpen && c.preceding?.all (·.keyword != .blockEnd)

def opensBlock (c : Cursor) : Bool :=
  c.opensBegin || c.opensCase

/-- `END` closes a block unless it closes a control statement. -/
def closesBlock (c : Cursor) : Bool :=
  c.token.keyword == .blockEnd && c.following?.all (·.keyword != .control)

/-- Only layout stands between this place and the start of its line, or a semicolon. -/
def startsLine : List Token → Bool
  | [] => true
  | t :: before =>
    if t.isSignificant then t.kind == .terminator else t.hasNewline || startsLine before

/-- A slash separates blocks when it is the first on its line or follows a semicolon; elsewhere it
divides. -/
def isSeparator (c : Cursor) : Bool :=
  c.token.kind == .separator && startsLine c.before

/-- A semicolon before a slash leaves the ending of the statement to the slash. -/
def isTerminator (c : Cursor) : Bool :=
  c.isSeparator || (c.token.kind == .terminator && c.following?.all (·.kind != .separator))

/-- The last part of a dotted name that starts with `name`. -/
def lastPart (name : Token) : List Token → Token
  | dot :: part :: rest => if dot.text = ['.'] then lastPart part rest else name
  | _ => name

/-- The significant tokens after the cursor, from the first one that is no modifier. -/
def object (c : Cursor) : List Token :=
  (c.after.filter (·.isSignificant)).dropWhile (·.keyword == .modifier)

/-- The unqualified name of the package that `CREATE` at the cursor makes. -/
def packageName? (c : Cursor) : Option (List Char) :=
  match c.object with
  | [] => none
  | t :: rest =>
    if t.keyword = .package then
      match rest.dropWhile fun t => [.modifier, .package, .body].contains t.keyword with
      | [] => none
      | name :: rest => some (lastPart name rest).text
    else none

/-- `CREATE` at the cursor makes a type body, whose methods one last `END` closes. -/
def createsTypeBody (c : Cursor) : Bool :=
  match c.object with
  | t :: b :: _ => t.keyword == .objectType && b.keyword == .body
  | _ => false

/-- The routine at the cursor is made here, and not dropped or called. -/
def isCreated (c : Cursor) : Bool :=
  (c.before.find? fun t => t.isSignificant && t.keyword != .modifier).any (·.keyword == .create)

def isMethod (c : Cursor) : Bool :=
  c.preceding?.any (·.keyword == .method)

/-- The body of a routine may be a string after `AS`. -/
def isQuotedBody (c : Cursor) : Bool :=
  c.token.kind == .stringLiteral && c.preceding?.any (·.keyword == .bodyIntro)

end Cursor

end SqlScript
