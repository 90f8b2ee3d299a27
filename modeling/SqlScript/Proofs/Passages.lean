import SqlScript.Proofs.Layout
import SqlScript.Proofs.OpenConstructs

namespace SqlScript

/-- The cursors of the tokens of a list that stands between `before` and `after`. -/
def cursorsBetween (before : List Token) : List Token → List Token → List Cursor
  | [], _ => []
  | t :: rest, after => ⟨before, t, rest ++ after⟩ :: cursorsBetween (t :: before) rest after

@[simp] theorem cursorsBetween_nil (before after : List Token) :
    cursorsBetween before [] after = [] := rfl

theorem cursorsBetween_cons (before rest after : List Token) (t : Token) :
    cursorsBetween before (t :: rest) after =
      ⟨before, t, rest ++ after⟩ :: cursorsBetween (t :: before) rest after := rfl

theorem cursorsBetween_append (before first second after : List Token) :
    cursorsBetween before (first ++ second) after =
      cursorsBetween before first (second ++ after) ++
        cursorsBetween (first.reverse ++ before) second after := by
  induction first generalizing before with
  | nil => rfl
  | cons t first ih =>
    simp only [List.cons_append, cursorsBetween_cons, ih, List.append_assoc,
      List.reverse_cons]
    rfl

/-- Whether a declaration waits for its body after a token of the given role, if `waits` says so
before it. -/
def Role.headerAfter (waits : Bool) : Role → Bool
  | .declares => true
  | .opensBegin | .quotedBody => false
  | _ => waits

def Cursor.headerAfter (waits : Bool) (c : Cursor) : Bool :=
  (Role.ofCursor c).headerAfter waits

theorem Cursor.headerAfter_of_describes (waits : Bool) {c : Cursor} {r : Role}
    (h : r.Describes c) : c.headerAfter waits = r.headerAfter waits := by
  rw [headerAfter, Role.ofCursor_of_describes h]

namespace Nesting

variable {s : Nesting} {c : Cursor} {cs first second : List Cursor} {P Q R : Nesting → Prop}
  {d : Nat} {h : Bool} {p : Option (List Char)}

/-- The nesting at the end of a run in which no token ends a statement. -/
def pass? (state : Nesting) : List Cursor → Option Nesting
  | [] => some state
  | c :: rest => if (state.stepAt c).2 = true then none else (state.stepAt c).1.pass? rest

theorem pass?_append (s : Nesting) (first second : List Cursor) :
    s.pass? (first ++ second) = (s.pass? first).bind (·.pass? second) := by
  induction first generalizing s with
  | nil => rfl
  | cons c first ih =>
    rw [List.cons_append, pass?, pass?]
    split
    · rfl
    · exact ih _

theorem run_of_pass? {s' : Nesting} (h : s.pass? cs = some s') : s.run cs = s' := by
  induction cs generalizing s with
  | nil =>
    cases h
    rfl
  | cons c cs ih =>
    rw [pass?, Option.ite_none_left_eq_some] at h
    exact ih h.2

/-- A run over tokens with layout among them does what it does without the layout. -/
theorem pass?_squeeze (s : Nesting) (before tokens after : List Token)
    (h : ∀ t ∈ significant tokens, t.kind ≠ .separator) :
    s.pass? (cursorsBetween (significant before) (significant tokens) (significant after)) =
      s.pass? (cursorsBetween before tokens after) := by
  induction tokens generalizing before s with
  | nil => rfl
  | cons t rest ih =>
    by_cases ht : t.isSignificant = true
    · have hcons : significant (t :: rest) = t :: significant rest := List.filter_cons_of_pos ht
      have hbefore : significant (t :: before) = t :: significant before :=
        List.filter_cons_of_pos ht
      have hstep : s.stepAt ⟨significant before, t, significant rest ++ significant after⟩ =
          s.stepAt ⟨before, t, rest ++ after⟩ := by
        rw [← significant_append]
        exact congrArg s.step (Role.ofCursor_squeeze (c := ⟨before, t, rest ++ after⟩)
          (h t (by simp [hcons])))
      have hi := ih (s.stepAt ⟨before, t, rest ++ after⟩).1 (t :: before)
        fun u hu => h u (by simp [hcons, hu])
      rw [hbefore] at hi
      rw [hcons, cursorsBetween_cons, cursorsBetween_cons, pass?, pass?, hstep, hi]
    · have hcons : significant (t :: rest) = significant rest := List.filter_cons_of_neg ht
      have hbefore : significant (t :: before) = significant before :=
        List.filter_cons_of_neg ht
      have hstep : s.stepAt ⟨before, t, rest ++ after⟩ = (s, false) :=
        step_of_layout s (by simpa using ht)
      have hi := ih s (t :: before) fun u hu => h u (by rwa [hcons])
      rw [hbefore] at hi
      rw [hcons, cursorsBetween_cons, pass?, hstep, hi]
      rfl

/-- No token of a run ends a statement, and a nesting with `P` before the run has `Q` after it. -/
def Passes (P : Nesting → Prop) (cs : List Cursor) (Q : Nesting → Prop) : Prop :=
  ∀ s, P s → ∃ s', s.pass? cs = some s' ∧ Q s'

theorem Passes.nil : Passes P [] P :=
  fun s hs => ⟨s, rfl, hs⟩

theorem Passes.append (h₁ : Passes P first Q) (h₂ : Passes Q second R) :
    Passes P (first ++ second) R := by
  intro s hs
  obtain ⟨s', hpass, hq⟩ := h₁ s hs
  obtain ⟨s'', hpass', hr⟩ := h₂ s' hq
  exact ⟨s'', by rw [pass?_append, hpass, Option.bind_some, hpass'], hr⟩

theorem Passes.cons (h₁ : Passes P [c] Q) (h₂ : Passes Q cs R) : Passes P (c :: cs) R :=
  Passes.append h₁ h₂

theorem Passes.squeeze (before tokens after : List Token)
    (h : Passes P (cursorsBetween (significant before) (significant tokens) (significant after)) Q)
    (htokens : ∀ t ∈ significant tokens, t.kind ≠ .separator) :
    Passes P (cursorsBetween before tokens after) Q := by
  intro s hs
  rw [← pass?_squeeze s before tokens after htokens]
  exact h s hs

theorem passes_of_stepAt (hstep : ∀ s, P s → (s.stepAt c).2 = false ∧ Q (s.stepAt c).1) :
    Passes P [c] Q := by
  intro s hs
  obtain ⟨hend, hq⟩ := hstep s hs
  exact ⟨(s.stepAt c).1, by simp [pass?, hend], hq⟩

theorem passes_of_describes {r : Role} (hr : r.Describes c)
    (hstep : ∀ s, P s → (s.step r).2 = false ∧ Q (s.step r).1) : Passes P [c] Q := by
  refine passes_of_stepAt fun s hs => ?_
  rw [stepAt_of_describes hr]
  exact hstep s hs

/-- What is open: so many blocks, a header or none, and a package or none. -/
structure Open (d : Nat) (h : Bool) (p : Option (List Char)) (s : Nesting) : Prop where
  depth : s.depth = d
  inHeader : s.inHeader = h
  package : s.package = p

theorem open_empty : Open 0 false none {} :=
  ⟨rfl, rfl, rfl⟩

theorem Open.canTerminate (hs : Open d h p s) :
    s.canTerminate = (d == 0 && !h && !p.isSome) := by
  rw [Nesting.canTerminate, inPackage, hs.depth, hs.inHeader, hs.package]

theorem stepAt_of_isTerminator (hs : s.canTerminate = true) (hc : c.isTerminator = true) :
    s.stepAt c = ({}, true) := by
  rw [stepAt_of_describes (r := .terminator) hc, step, if_pos hs]
  cases s
  simp_all [canTerminate, inPackage]

theorem passes_opensBegin (hc : c.opensBegin = true) :
    Passes (Open d h p) [c] (Open (d + 1) false p) := by
  refine passes_of_describes (r := .opensBegin) hc fun s hs => ⟨rfl, ?_⟩
  exact ⟨congrArg (· + 1) hs.depth, rfl, hs.package⟩

theorem passes_opensCase (hc : c.opensCase = true) :
    Passes (Open d h p) [c] (Open (d + 1) h p) := by
  refine passes_of_describes (r := .opensCase) hc fun s hs => ⟨rfl, ?_⟩
  exact ⟨congrArg (· + 1) hs.depth, hs.inHeader, hs.package⟩

theorem passes_createsTypeBody (hk : c.token.keyword = .create) (hc : c.createsTypeBody = true) :
    Passes (Open d h p) [c] (Open (d + 1) h p) := by
  refine passes_of_describes (r := .createsTypeBody) ⟨hk, hc⟩ fun s hs => ⟨rfl, ?_⟩
  exact ⟨congrArg (· + 1) hs.depth, hs.inHeader, hs.package⟩

theorem passes_idle (hr : Role.ofCursor c ∈ [.createsOther, .placeholder, .inert]) :
    Passes (Open d h p) [c] (Open d h p) := by
  refine passes_of_stepAt fun s hs => ?_
  simp only [List.mem_cons, List.not_mem_nil, or_false] at hr
  rcases hr with hr | hr | hr <;> rw [stepAt, hr]
  · exact ⟨rfl, hs.depth, hs.inHeader, hs.package⟩
  · exact ⟨rfl, hs.depth, hs.inHeader, hs.package⟩
  · exact ⟨rfl, hs⟩

theorem headerAfter_of_idle (hr : Role.ofCursor c ∈ [.createsOther, .placeholder, .inert]) :
    c.headerAfter h = h := by
  simp only [List.mem_cons, List.not_mem_nil, or_false] at hr
  rcases hr with hr | hr | hr <;> rw [Cursor.headerAfter, hr] <;> rfl

theorem passes_closes (hc : c.closesBlock = true)
    (hp : ∀ name, p = some name → c.endsWithName name = false) :
    Passes (Open (d + 1) h p) [c] (Open d h p) := by
  refine passes_of_describes (r := .closes _) ⟨hc, rfl⟩ fun s hs => ⟨rfl, ?_⟩
  have hstays : ¬ (s.inPackage = true ∧ c.following?.map (·.text) = s.package) := by
    rintro ⟨hin, hname⟩
    obtain ⟨name, hpkg⟩ := Option.isSome_iff_exists.1 hin
    have hends := hp name (hs.package.symm.trans hpkg)
    rw [Cursor.endsWithName, hc, hname, hpkg] at hends
    simp at hends
  rw [step, close_eq, if_neg hstays]
  exact ⟨by simp [hs.depth], hs.inHeader, hs.package⟩

theorem passes_declare (hk : c.token.keyword = .declare) :
    Passes (Open d h p) [c] (Open d true p) := by
  refine passes_of_describes (r := .declares) hk fun s hs => ⟨rfl, ?_⟩
  exact ⟨hs.depth, rfl, hs.package⟩

theorem passes_routine (hk : c.token.keyword = .routine)
    (hh : h = true ∨ p.isSome = true ∨ c.isCreated = true ∨ 0 < d ∧ c.isMethod = true) :
    Passes (Open d h p) [c] (Open d true p) := by
  refine passes_of_describes (r := .routine _ _) ⟨hk, rfl, rfl⟩ fun s hs => ⟨rfl, ?_⟩
  refine ⟨hs.depth, ?_, hs.package⟩
  rw [step, opensHeader, inPackage, hs.inHeader, hs.depth, hs.package]
  rcases hh with rfl | hp | hh | ⟨hd, hm⟩
  · rfl
  · simp [hp]
  · simp [hh]
  · simp [hd, hm]

theorem passes_quotedBody (hc : c.isQuotedBody = true) :
    Passes (Open d h p) [c] (Open d false p) := by
  refine passes_of_describes (r := .quotedBody) hc fun s hs => ⟨rfl, ?_⟩
  exact ⟨hs.depth, rfl, hs.package⟩

theorem ofCursor_of_mark (hk : c.token.kind = .terminator ∨ c.token.kind = .separator) :
    Role.ofCursor c = .terminator ∨ Role.ofCursor c = .inert := by
  rcases hk with hk | hk <;> rw [Role.ofCursor, hk] <;> by_cases ht : c.isTerminator = true <;>
    simp [ht]

theorem stepAt_of_mark (hk : c.token.kind = .terminator ∨ c.token.kind = .separator)
    (hends : ¬ (s.stepAt c).2 = true) : s.stepAt c = (s, false) := by
  rw [stepAt] at hends ⊢
  rcases ofCursor_of_mark hk with hr | hr
  · rw [hr, step] at hends ⊢
    split
    · next hcan => simp [hcan] at hends
    · rfl
  · rw [hr, step]

theorem headerAfter_of_mark (hk : c.token.kind = .terminator ∨ c.token.kind = .separator) :
    c.headerAfter h = h := by
  rcases ofCursor_of_mark hk with hr | hr <;> rw [Cursor.headerAfter, hr] <;> rfl

theorem passes_mark (hk : c.token.kind = .terminator ∨ c.token.kind = .separator)
    (ho : 0 < d ∨ h = true ∨ p.isSome = true) : Passes (Open d h p) [c] (Open d h p) := by
  refine passes_of_stepAt fun s hs => ?_
  have hclosed : s.canTerminate = false := by
    rw [hs.canTerminate]
    rcases ho with hd | rfl | hp
    · simp [Nat.ne_of_gt hd]
    · simp
    · simp [hp]
  have hstep : s.stepAt c = (s, false) := by
    rw [stepAt]
    rcases ofCursor_of_mark hk with hr | hr <;> rw [hr, step]
    rw [if_neg (by simp [hclosed])]
  rw [hstep]
  exact ⟨rfl, hs⟩

/-- A run that ends no statement and takes the depth from `d` to `d'`. Whether a header is open
after it only depends on the tokens that start declarations and bodies. -/
def Moves (p : Option (List Char)) (d : Nat) (cs : List Cursor) (d' : Nat) : Prop :=
  ∀ h, Passes (Open d h p) cs (Open d' (cs.foldl Cursor.headerAfter h) p)

theorem Moves.nil : Moves p d [] d :=
  fun _ => .nil

theorem Moves.append {d' d'' : Nat} (h₁ : Moves p d first d') (h₂ : Moves p d' second d'') :
    Moves p d (first ++ second) d'' := by
  intro h
  rw [List.foldl_append]
  exact (h₁ h).append (h₂ _)

theorem Moves.cons {d' d'' : Nat} (h₁ : Moves p d [c] d') (h₂ : Moves p d' cs d'') :
    Moves p d (c :: cs) d'' :=
  Moves.append h₁ h₂

theorem moves_opensBegin (hc : c.opensBegin = true) : Moves p d [c] (d + 1) := by
  intro h
  rw [List.foldl_cons, Cursor.headerAfter_of_describes (r := .opensBegin) h hc]
  exact passes_opensBegin hc

theorem moves_opensCase (hc : c.opensCase = true) : Moves p d [c] (d + 1) := by
  intro h
  rw [List.foldl_cons, Cursor.headerAfter_of_describes (r := .opensCase) h hc]
  exact passes_opensCase hc

theorem moves_closes (hc : c.closesBlock = true)
    (hp : ∀ name ∈ p, c.endsWithName name = false) : Moves p (d + 1) [c] d := by
  intro h
  rw [List.foldl_cons, Cursor.headerAfter_of_describes (r := .closes _) h ⟨hc, rfl⟩]
  exact passes_closes hc hp

theorem moves_declare (hk : c.token.keyword = .declare) : Moves p d [c] d := by
  intro h
  rw [List.foldl_cons, Cursor.headerAfter_of_describes (r := .declares) h hk]
  exact passes_declare hk

theorem moves_quotedBody (hc : c.isQuotedBody = true) : Moves p d [c] d := by
  intro h
  rw [List.foldl_cons, Cursor.headerAfter_of_describes (r := .quotedBody) h hc]
  exact passes_quotedBody hc

theorem moves_idle (hr : Role.ofCursor c ∈ [.createsOther, .placeholder, .inert]) :
    Moves p d [c] d := by
  intro h
  rw [List.foldl_cons, headerAfter_of_idle hr]
  exact passes_idle hr

theorem moves_mark (hk : c.token.kind = .terminator ∨ c.token.kind = .separator)
    (ho : 0 < d ∨ p.isSome = true) : Moves p d [c] d := by
  intro h
  rw [List.foldl_cons, headerAfter_of_mark hk]
  exact passes_mark hk (ho.imp_right .inr)

end Nesting

section Segments

open Nesting

variable {first rest : List Token} {semicolon : Token}

theorem cut_of_pass? {state state' : Nesting} (before held : List Token)
    (hpass : state.pass? (cursorsBetween before first rest) = some state') :
    cut state before held (first ++ rest) =
      cut state' (first.reverse ++ before) (first.reverse ++ held) rest := by
  induction first generalizing state before held with
  | nil =>
    cases hpass
    rfl
  | cons t first ih =>
    rw [cursorsBetween_cons, pass?, Option.ite_none_left_eq_some] at hpass
    rw [List.cons_append, cut, if_neg hpass.1, ih (t :: before) (t :: held) hpass.2]
    simp

/-- Tokens are cut behind a mark as they are cut at the start of a script. -/
theorem cut_append (state : Nesting) (pre held rest : List Token) {before : List Token}
    (hb : Cursor.IsFresh before)
    (hline : Cursor.startsLine (pre ++ before) = Cursor.startsLine pre) :
    cut state (pre ++ before) held rest = cut state pre held rest := by
  have hlonger (xs : List Token) {pre : List Token}
      (hline : Cursor.startsLine (pre ++ before) = Cursor.startsLine pre) :
      Cursor.startsLine (xs ++ pre ++ before) = Cursor.startsLine (xs ++ pre) := by
    rw [List.append_assoc, Cursor.startsLine_append xs hline]
  fun_induction cut state pre held rest with
  | case1 => rw [cut]
  | case2 state pre held t rest outcome h comments others ih =>
    have hstep : state.stepAt ⟨pre ++ before, t, rest⟩ = outcome :=
      congrArg state.step (Role.ofCursor_append t rest hb fun _ => hline)
    have hi := ih (by simpa using hlonger (comments.reverse ++ [t]) hline)
    rw [List.append_assoc, List.cons_append] at hi
    rw [cut, hstep, if_pos h]
    simp only [others, ← hi]
    rfl
  | case3 state pre held t rest outcome h ih =>
    have hstep : state.stepAt ⟨pre ++ before, t, rest⟩ = outcome :=
      congrArg state.step (Role.ofCursor_append t rest hb fun _ => hline)
    have hi := ih (hlonger [t] hline)
    rw [List.cons_append] at hi
    rw [cut, hstep, if_neg h, hi]

/-- The first segment ends at the given token, with the comments on its line, and what comes after
it is cut as a script of its own. -/
def CutAt (first : List Token) (t : Token) (rest : List Token) : Prop :=
  let others := segments (rest.drop (trailingComments rest).length)
  ∃ placeholders, segments (first ++ t :: rest) =
    (⟨first ++ t :: trailingComments rest, placeholders⟩ :: others.1, others.2)

/-- A semicolon ends the first segment if the tokens before it pass without an ending and leave
nothing open. -/
theorem cutAt_of_passes (hsemicolon : semicolon.kind = .terminator)
    (hslash : ∀ t ∈ (significant rest).head?, t.kind ≠ .separator)
    (hpass : Passes (Open 0 false none) (cursorsBetween [] first (semicolon :: rest))
      (Open 0 false none)) :
    CutAt first semicolon rest := by
  obtain ⟨s, hs, hopen⟩ := hpass {} open_empty
  refine ⟨s.placeholders, ?_⟩
  rw [segments, cut_of_pass? [] [] hs]
  have hlone : Cursor.isTerminator ⟨first.reverse ++ [], semicolon, []⟩ = true := by
    simp [Cursor.isTerminator, Cursor.following?, hsemicolon]
  have hstep : s.stepAt ⟨first.reverse ++ [], semicolon, rest⟩ = ({}, true) :=
    stepAt_of_isTerminator (by simp [hopen.canTerminate]) (Cursor.isTerminator_of_last hlone hslash)
  -- The next segment is cut behind the tokens of this one, which it cannot tell from none.
  have hlast : ∀ u ∈ (significant ((trailingComments rest).reverse ++
      semicolon :: (first.reverse ++ []))).head?, u.kind = .terminator := by
    intro u hu
    have hlayout : significant (trailingComments rest).reverse = [] :=
      significant_eq_nil fun v hv => isSignificant_of_mem_trailingComments (List.mem_reverse.1 hv)
    rw [significant_append, hlayout, List.nil_append, significant_cons,
      if_pos (Token.isSignificant_of_terminator hsemicolon), List.head?_cons,
      Option.mem_some_iff] at hu
    rw [← hu, hsemicolon]
  rw [cut, hstep, if_pos rfl]
  have hrest := cut_append {} [] [] (rest.drop (trailingComments rest).length)
    (fun u hu => .inl (hlast u hu)) (Cursor.startsLine_of_terminator hlast)
  rw [List.nil_append, List.append_nil] at hrest
  simp only [segments, List.append_nil, List.reverse_reverse, hrest]

theorem cutAt_of_significant {tokens xs others : List Token}
    (htokens : significant tokens = xs ++ semicolon :: others)
    (hsemicolon : semicolon.kind = .terminator) (hxs : ∀ t ∈ xs, t.kind ≠ .separator)
    (hslash : ∀ t ∈ others.head?, t.kind ≠ .separator)
    (hpass : Passes (Open 0 false none) (cursorsBetween [] xs (semicolon :: others))
      (Open 0 false none)) :
    ∃ first rest, tokens = first ++ semicolon :: rest ∧ significant first = xs ∧
      significant rest = others ∧ CutAt first semicolon rest := by
  obtain ⟨first, rest, rfl, rfl, rfl⟩ := exists_append_of_significant_eq htokens
  have hcons : significant (semicolon :: rest) = semicolon :: significant rest :=
    List.filter_cons_of_pos (Token.isSignificant_of_terminator hsemicolon)
  rw [← hcons] at hpass
  exact ⟨first, rest, rfl, rfl, rfl,
    cutAt_of_passes hsemicolon hslash (Passes.squeeze [] _ _ hpass hxs)⟩

end Segments

end SqlScript
