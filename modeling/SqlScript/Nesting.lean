import SqlScript.Role

/-!
The nesting of a script: the constructs that are open at a place, and how each role changes them. A
terminator ends a statement only where nothing is open.
-/

namespace SqlScript

/-- The blocks open at a place, whether a procedural header waits for its body, and the open
package; for the statement at hand also whether it makes or alters an object, and its
placeholders. -/
structure Nesting where
  depth : Nat := 0
  inHeader : Bool := false
  package : Option (List Char) := none
  inCreateOrAlter : Bool := false
  placeholders : Nat := 0
deriving DecidableEq, Repr

namespace Nesting

def inPackage (state : Nesting) : Bool :=
  state.package.isSome

/-- Nothing is open, so a terminator here ends the statement. -/
def canTerminate (state : Nesting) : Bool :=
  state.depth == 0 && !state.inHeader && !state.inPackage

/-- A routine has a header of its own in a package, when it is created, and as a method of a type
body. -/
def opensHeader (state : Nesting) (created method : Bool) : Bool :=
  state.inPackage || created || (state.depth > 0 && method)

/-- The `END` with the name of the open package closes it, and with it the headers of routines that
it declares without a body. -/
def close (state : Nesting) (next : Option (List Char)) : Nesting :=
  let outer := { state with depth := state.depth - 1 }
  if state.inPackage && next == state.package then
    { outer with package := none, inHeader := false }
  else outer

/-- The nesting after a token of the given role, and whether the token ends the statement. -/
def step (state : Nesting) : Role → Nesting × Bool
  | .opensBegin => ({ state with depth := state.depth + 1, inHeader := false }, false)
  | .opensCase => ({ state with depth := state.depth + 1 }, false)
  | .createsTypeBody => ({ state with depth := state.depth + 1, inCreateOrAlter := true }, false)
  | .createsPackage name => ({ state with package := some name, inCreateOrAlter := true }, false)
  | .createsOther => ({ state with inCreateOrAlter := true }, false)
  | .declares => ({ state with inHeader := true }, false)
  | .routine created method =>
    ({ state with inHeader := state.inHeader || state.opensHeader created method }, false)
  | .quotedBody => ({ state with inHeader := false }, false)
  | .closes next => (state.close next, false)
  | .placeholder => ({ state with placeholders := state.placeholders + 1 }, false)
  | .terminator =>
    if state.canTerminate then ({ state with inCreateOrAlter := false, placeholders := 0 }, true)
    else (state, false)
  | .inert => (state, false)

def stepAt (state : Nesting) (c : Cursor) : Nesting × Bool :=
  state.step (.ofCursor c)

/-- The outcome of each of a run of cursors, in order. -/
def trace (state : Nesting) : List Cursor → List (Nesting × Bool)
  | [] => []
  | c :: rest => state.stepAt c :: (state.stepAt c).1.trace rest

theorem step_of_layout (state : Nesting) {c : Cursor} (h : c.token.isSignificant = false) :
    state.stepAt c = (state, false) := by
  simp only [stepAt, Role.ofCursor_of_layout h, step]

end Nesting

end SqlScript
