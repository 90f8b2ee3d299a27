import SqlScript.Proofs.Layout
import SqlScript.Proofs.Parallel
import SqlScript.Token.Lexer

namespace SqlScript

open Nesting

/-- The significant tokens of a list, each slash with whether a line feed stands in the layout in
front of it. `passed` says whether one has been passed since the last significant token. -/
def outlineFrom (passed : Bool) : List Token → List (Token × Bool)
  | [] => []
  | t :: rest =>
    if t.isSignificant then (t, t.kind == .separator && passed) :: outlineFrom false rest
    else outlineFrom (passed || t.hasNewline) rest

def outline (tokens : List Token) : List (Token × Bool) :=
  outlineFrom false tokens

/-- The outcomes of a run at its significant tokens, in order. -/
def Nesting.outcomes (state : Nesting) : List Cursor → List (Nesting × Bool)
  | [] => []
  | c :: rest =>
    if c.token.isSignificant then state.stepAt c :: (state.stepAt c).1.outcomes rest
    else (state.stepAt c).1.outcomes rest

/-- The roles of the significant tokens at some cursors, in order. -/
def significantRoles (cs : List Cursor) : List Role :=
  (cs.filter (·.token.isSignificant)).map .ofCursor

/-- The roles of the tokens of an outline that stands behind `before`. -/
def rolesFrom (before : List Token) : List (Token × Bool) → List Role
  | [] => []
  | (t, line) :: rest =>
    .ofCursor ⟨(if line then [⟨.space, ['\n']⟩] else []) ++ before, t, rest.map (·.1)⟩ ::
      rolesFrom (t :: before) rest

variable {before before' after after' ts us gap first second : List Token} {t : Token}
  {passed : Bool} {s s' : Nesting}

theorem outlineFrom_of_significant (ht : t.isSignificant = true) (passed : Bool)
    (rest : List Token) :
    outlineFrom passed (t :: rest) =
      (t, t.kind == .separator && passed) :: outlineFrom false rest := by
  rw [outlineFrom, if_pos ht]

theorem outlineFrom_of_layout (ht : t.isSignificant = false) (passed : Bool) (rest : List Token) :
    outlineFrom passed (t :: rest) = outlineFrom (passed || t.hasNewline) rest := by
  rw [outlineFrom, if_neg (by simp [ht])]

theorem outlineFrom_layout (hgap : ∀ u ∈ gap, u.isSignificant = false) (passed : Bool)
    (ts : List Token) :
    outlineFrom passed (gap ++ ts) = outlineFrom (passed || (textOf gap).contains '\n') ts := by
  induction gap generalizing passed with
  | nil => rw [List.nil_append, textOf, List.flatMap_nil, List.contains_nil, Bool.or_false]
  | cons u gap ih =>
    obtain ⟨hu, hgap⟩ := List.forall_mem_cons.1 hgap
    rw [List.cons_append, outlineFrom_of_layout hu, ih hgap, textOf, textOf, List.flatMap_cons,
      List.contains_append, Token.hasNewline, Bool.or_assoc]

theorem outlineFrom_append_layout (hgap : ∀ u ∈ gap, u.isSignificant = false) (passed : Bool)
    (ts : List Token) : outlineFrom passed (ts ++ gap) = outlineFrom passed ts := by
  induction ts generalizing passed with
  | nil =>
    have h := outlineFrom_layout hgap passed []
    rwa [List.append_nil] at h
  | cons t rest ih => rw [List.cons_append, outlineFrom, outlineFrom, ih, ih]

theorem outlineFrom_append_cons (ht : t.isSignificant = true) (hk : t.kind ≠ .separator)
    (passed : Bool) (first second : List Token) :
    outlineFrom passed (first ++ t :: second) =
      outlineFrom passed first ++ (t, false) :: outlineFrom false second := by
  induction first generalizing passed with
  | nil => simp [outlineFrom, ht, hk]
  | cons u first ih =>
    rw [List.cons_append, outlineFrom, outlineFrom, ih, ih]
    split <;> rfl

theorem map_fst_outlineFrom (passed : Bool) (ts : List Token) :
    (outlineFrom passed ts).map (·.1) = significant ts := by
  induction ts generalizing passed with
  | nil => rfl
  | cons t rest ih =>
    rw [significant_cons]
    by_cases ht : t.isSignificant = true
    · rw [outlineFrom_of_significant ht, if_pos ht, List.map_cons, ih]
    · rw [outlineFrom_of_layout (by simpa using ht), if_neg ht, ih]

theorem significant_eq_of_outline (h : outline us = outline ts) :
    significant us = significant ts := by
  rw [← map_fst_outlineFrom false us, ← map_fst_outlineFrom false ts]
  exact congrArg _ h

theorem outline_of_significant_eq_nil (h : significant ts = []) : outline ts = [] := by
  rw [← List.map_eq_nil_iff (f := (·.1))]
  exact (map_fst_outlineFrom false ts).trans h

theorem outlineFrom_eq_outline (h : ∀ t ∈ (significant ts).head?, t.kind ≠ .separator)
    (passed : Bool) : outlineFrom passed ts = outline ts := by
  induction ts generalizing passed with
  | nil => rfl
  | cons t ts ih =>
    rw [significant_cons] at h
    rw [outline]
    by_cases ht : t.isSignificant = true
    · rw [if_pos ht] at h
      have hk : (t.kind == .separator) = false := beq_false_of_ne (h t rfl)
      rw [outlineFrom_of_significant ht, outlineFrom_of_significant ht, hk, Bool.false_and,
        Bool.false_and]
    · rw [if_neg ht] at h
      have ht' : t.isSignificant = false := by simpa using ht
      rw [outlineFrom_of_layout ht', outlineFrom_of_layout ht', ih h, ih h]

/-- A token does the same among the same significant tokens, if it is no slash or if both places
start a line or neither does. -/
theorem Role.ofCursor_of_significant (t : Token)
    (hbefore : significant before = significant before')
    (hafter : significant after = significant after')
    (hline : t.kind = .separator → Cursor.startsLine before = Cursor.startsLine before') :
    ofCursor ⟨before, t, after⟩ = ofCursor ⟨before', t, after'⟩ := by
  by_cases hk : t.kind = .separator
  · simp only [ofCursor, hk, Cursor.isTerminator, Cursor.isSeparator, hline hk]
    rfl
  · have hsqueeze : Cursor.squeeze ⟨before, t, after⟩ = Cursor.squeeze ⟨before', t, after'⟩ := by
      rw [Cursor.squeeze, Cursor.squeeze, hbefore, hafter]
    rw [← ofCursor_squeeze (c := ⟨before, t, after⟩) hk, hsqueeze]
    exact ofCursor_squeeze (c := ⟨before', t, after'⟩) hk

theorem significantRoles_cons (c : Cursor) (cs : List Cursor) :
    significantRoles (c :: cs) =
      if c.token.isSignificant = true then Role.ofCursor c :: significantRoles cs
      else significantRoles cs := by
  rw [significantRoles, List.filter_cons]
  split <;> rfl

theorem outcomes_eq_steps (state : Nesting) (cs : List Cursor) :
    state.outcomes cs = state.steps (significantRoles cs) := by
  induction cs generalizing state with
  | nil => rfl
  | cons c rest ih =>
    rw [outcomes, significantRoles_cons, ih]
    split
    · rfl
    · next hc => rw [step_of_layout state (by simpa using hc)]

/-- The roles of significant tokens are told by the outline of the list. -/
theorem significantRoles_cursorsFrom
    (hline : Cursor.startsLine before = (passed || Cursor.startsLine (significant before))) :
    significantRoles (cursorsFrom before ts) =
      rolesFrom (significant before) (outlineFrom passed ts) := by
  induction ts generalizing before passed with
  | nil => rfl
  | cons t rest ih =>
    rw [cursorsFrom, significantRoles_cons]
    by_cases ht : t.isSignificant = true
    · have hrole : Role.ofCursor ⟨before, t, rest⟩ =
          Role.ofCursor ⟨(if (t.kind == .separator && passed) = true then [⟨.space, ['\n']⟩]
            else []) ++ significant before, t, (outlineFrom false rest).map (·.1)⟩ := by
        apply Role.ofCursor_of_significant
        · rw [significant_append, significant_significant]
          split <;> rfl
        · rw [map_fst_outlineFrom, significant_significant]
        · intro hk
          rw [hline, hk]
          cases passed <;> rfl
      have hbefore : significant (t :: before) = t :: significant before :=
        List.filter_cons_of_pos ht
      have hstart : Cursor.startsLine (t :: before) =
          (false || Cursor.startsLine (significant (t :: before))) := by
        rw [hbefore]
        simp [Cursor.startsLine, ht]
      rw [if_pos ht, outlineFrom_of_significant ht, rolesFrom, ← hrole, ih hstart, hbefore]
    · have hlayout : t.isSignificant = false := by simpa using ht
      have hbefore : significant (t :: before) = significant before := List.filter_cons_of_neg ht
      have hstart : Cursor.startsLine (t :: before) =
          ((passed || t.hasNewline) || Cursor.startsLine (significant (t :: before))) := by
        rw [hbefore, Cursor.startsLine, if_neg ht, hline, Bool.or_left_comm, Bool.or_assoc]
      rw [if_neg ht, outlineFrom_of_layout hlayout, ih hstart, hbefore]

theorem significantRoles_cursors (ts : List Token) :
    significantRoles (cursors ts) = rolesFrom [] (outline ts) :=
  significantRoles_cursorsFrom rfl

/-- Lists with the same significant tokens, which have line feeds in front of the same slashes, are
run alike from nestings in which the same is open: at each significant token a statement ends in
both or in neither, and the same is open behind it. Layout does nothing. -/
theorem outcomes_of_outline (houtline : outline first = outline second)
    (hdepth : s.depth = s'.depth) (hheader : s.inHeader = s'.inHeader)
    (hpackage : s.package = s'.package) :
    List.Forall₂ (fun o o' => o.2 = o'.2 ∧ o.1.depth = o'.1.depth ∧
        o.1.inHeader = o'.1.inHeader ∧ o.1.package = o'.1.package)
      (s.outcomes (cursors first)) (s'.outcomes (cursors second)) ∧
    ∀ c ∈ cursors first ++ cursors second, c.token.isSignificant = false →
      ∀ state : Nesting, state.stepAt c = (state, false) := by
  have hopen : SameOpen Eq s s' := ⟨hdepth, hheader, rel_eq_iff.2 hpackage⟩
  constructor
  · rw [outcomes_eq_steps, outcomes_eq_steps, significantRoles_cursors, significantRoles_cursors,
      houtline]
    have hroles := List.forall₂_same.2 fun r (_ : r ∈ rolesFrom [] (outline second)) =>
      Role.alike_refl r
    apply (forall₂_steps (fun _ _ _ _ h => h.step faithful_eq) hopen hroles).imp
    rintro o o' ⟨hends, hsame⟩
    exact ⟨hends, hsame.depth, hsame.inHeader, rel_eq_iff.1 hsame.package⟩
  · intro c _ hc state
    exact step_of_layout state hc

theorem outcomes_of_outline_of_slash :
    outline (tokens "SELECT 1; -- one\n/ SELECT /* two */ 2 / 3;".toList) =
        outline (tokens "SELECT 1;\n\t/SELECT 2/3;".toList) ∧
      List.Forall₂ (fun o o' => o.2 = o'.2 ∧ o.1.depth = o'.1.depth ∧
          o.1.inHeader = o'.1.inHeader ∧ o.1.package = o'.1.package)
        (({} : Nesting).outcomes
          (cursors (tokens "SELECT 1; -- one\n/ SELECT /* two */ 2 / 3;".toList)))
        (({ placeholders := 2 } : Nesting).outcomes
          (cursors (tokens "SELECT 1;\n\t/SELECT 2/3;".toList))) := by
  have houtline : outline (tokens "SELECT 1; -- one\n/ SELECT /* two */ 2 / 3;".toList) =
      outline (tokens "SELECT 1;\n\t/SELECT 2/3;".toList) := by
    decide +kernel
  have hdepth : ({} : Nesting).depth = ({ placeholders := 2 } : Nesting).depth := rfl
  exact ⟨houtline, (outcomes_of_outline houtline hdepth rfl rfl).1⟩

end SqlScript
