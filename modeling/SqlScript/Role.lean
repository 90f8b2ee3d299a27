import SqlScript.Cursor

/-!
What a token does to the nesting of a script. A role depends on the token and on its neighbours, but
not on the nesting that has been reached.
-/

namespace SqlScript

inductive Role where
  | opensBegin
  | opensCase
  | createsTypeBody
  | createsPackage (name : List Char)
  | createsOther
  | declares
  | routine (created method : Bool)
  | quotedBody
  | closes (next : Option (List Char))
  | placeholder
  | terminator
  | inert
deriving DecidableEq, Repr

namespace Role

def ofKeyword (c : Cursor) : Role :=
  match c.token.keyword with
  | .blockBegin => if c.opensBegin then .opensBegin else .inert
  | .caseOpen => if c.opensCase then .opensCase else .inert
  | .create =>
    if c.createsTypeBody then .createsTypeBody
    else match c.packageName? with
      | some name => .createsPackage name
      | none => .createsOther
  | .alter => .createsOther
  | .declare => .declares
  | .routine => .routine c.isCreated c.isMethod
  | .blockEnd => if c.closesBlock then .closes (c.following?.map (·.text)) else .inert
  | _ => .inert

def ofCursor (c : Cursor) : Role :=
  match c.token.kind with
  | .word => ofKeyword c
  | .stringLiteral => if c.isQuotedBody then .quotedBody else .inert
  | .placeholder => .placeholder
  | .terminator | .separator => if c.isTerminator then .terminator else .inert
  | _ => .inert

/-- Layout does nothing. -/
theorem ofCursor_of_layout {c : Cursor} (h : c.token.isSignificant = false) :
    ofCursor c = .inert := by
  unfold ofCursor
  cases hk : c.token.kind <;> simp_all [Token.isSignificant, Token.isComment]

end Role

end SqlScript
