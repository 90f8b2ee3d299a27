import SqlScript.Token

/-!
The words that matter to where a statement ends, grouped by what they do.
-/

namespace SqlScript

inductive Keyword where
  | blockBegin
  | blockEnd
  | caseOpen
  | create
  | alter
  | declare
  | routine
  | package
  | objectType
  | body
  | bodyIntro
  | modifier
  | method
  | transaction
  | control
  | plain
deriving DecidableEq, Repr

namespace Keyword

/-- The spellings of each keyword; a plain word is any other. -/
def spellings : Keyword → List String
  | .blockBegin => ["BEGIN"]
  | .blockEnd => ["END"]
  | .caseOpen => ["CASE"]
  | .create => ["CREATE"]
  | .alter => ["ALTER"]
  | .declare => ["DECLARE"]
  | .routine => ["FUNCTION", "PROCEDURE"]
  | .package => ["PACKAGE"]
  | .objectType => ["TYPE"]
  | .body => ["BODY"]
  | .bodyIntro => ["AS"]
  | .modifier => ["OR", "REPLACE", "EDITIONABLE", "NONEDITIONABLE"]
  | .method => ["MEMBER", "STATIC", "CONSTRUCTOR"]
  | .transaction => ["WORK", "TRAN", "TRANSACTION", "ISOLATION", "READ"]
  | .control => ["IF", "LOOP", "WHILE", "REPEAT"]
  | .plain => []

def all : List Keyword :=
  [.blockBegin, .blockEnd, .caseOpen, .create, .alter, .declare, .routine, .package, .objectType,
   .body, .bodyIntro, .modifier, .method, .transaction, .control]

/-- The keyword that upper-case letters spell. -/
def ofCapitals (s : String) : Keyword :=
  (all.find? (·.spellings.contains s)).getD .plain

end Keyword

def Token.keyword (t : Token) : Keyword :=
  .ofCapitals t.capitals

theorem Token.keyword_of_kind_ne {t : Token} (h : t.kind ≠ .word) : t.keyword = .plain := by
  simp only [keyword, capitals, if_neg h]
  rfl

end SqlScript
