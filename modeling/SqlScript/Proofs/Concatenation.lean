import SqlScript.Proofs.Excerpts
import SqlScript.Proofs.LookAhead

namespace SqlScript

open Nesting

variable {o : Options} {first second : List Char} {before held mid passed us rest : List Token}
  {m : Token} {state : Nesting}

theorem trailingComments_append_cons (hm : m.isSignificant = true) (xs ys : List Token) :
    trailingComments (xs ++ m :: ys) = trailingComments xs := by
  induction xs with
  | nil =>
    rw [List.nil_append, trailingComments, trailingComments]
    cases hk : m.kind <;> simp_all [Token.isSignificant, Token.isComment]
  | cons x xs ih => rw [List.cons_append, trailingComments, trailingComments, ih]

/-- The tokens are none, or they start a line. -/
def StartsWithLine (us : List Token) : Prop :=
  us = [] ∨ ∃ spaces rest, us = ⟨.space, '\n' :: spaces⟩ :: rest

theorem startsWithLine_tokensAfter (previous : Option Char)
    (hline : ∀ c ∈ second.head?, c = '\n') :
    StartsWithLine (Lexer.tokensAfter previous second) := by
  cases second with
  | nil => exact .inl (Lexer.tokensAfter_nil previous)
  | cons c rest =>
    obtain rfl := hline c rfl
    exact .inr ⟨_, _, Lexer.tokensAfter_of_next? (Lexer.next?_of_isSpace (by decide) rest)⟩

theorem startsWithLine_tokens (hline : ∀ c ∈ second.head?, c = '\n') :
    StartsWithLine (tokens second) :=
  startsWithLine_tokensAfter none hline

theorem StartsWithLine.trailingComments (h : StartsWithLine us) : trailingComments us = [] := by
  rcases h with rfl | ⟨spaces, rest, rfl⟩
  · rfl
  · simp [SqlScript.trailingComments, Token.hasNewline]

theorem StartsWithLine.cut_eq (h : StartsWithLine us)
    (hm : m.kind = .terminator ∨ m.kind = .separator) (before : List Token) :
    cut {} (m :: before) [] us = segments us := by
  rcases h with rfl | ⟨spaces, rest, rfl⟩
  · rw [cut, segments, cut]
  have hlayout : Token.isSignificant ⟨.space, '\n' :: spaces⟩ = false := rfl
  have hskip (before : List Token) : cut {} before [] (⟨.space, '\n' :: spaces⟩ :: rest) =
      cut {} (⟨.space, '\n' :: spaces⟩ :: before) [⟨.space, '\n' :: spaces⟩] rest := by
    rw [cut, step_of_layout {} hlayout]
    rfl
  have hfresh : Cursor.IsFresh (m :: before) := by
    intro u hu
    rw [significant_cons, if_pos (Token.isSignificant_of_mark hm)] at hu
    cases hu
    exact hm
  rw [segments, hskip, hskip]
  exact cut_append {} [⟨.space, '\n' :: spaces⟩] _ rest hfresh (by simp [Cursor.startsLine,
    Token.hasNewline, hlayout])

theorem EndsBehind.stepAt_eq (h : EndsBehind state before [] m)
    (hslash : ∀ t ∈ (significant us).head?, t.kind ≠ .separator) :
    state.stepAt ⟨before, m, us⟩ = ({}, true) :=
  stepAt_of_isTerminator h.role.1 (Cursor.isTerminator_of_last h.role.2 hslash)

/-- A mark that ends a statement leaves one segment with no tokens behind it. What stands on the
next line is cut into segments of its own instead. -/
theorem cut_of_endsBehind (state : Nesting) (before held rest mid : List Token)
    (hends : EndsBehind state before mid m) (hdot : m.text ≠ ['.'])
    (hline : StartsWithLine us) (hslash : ∀ t ∈ (significant us).head?, t.kind ≠ .separator)
    (hrest : rest = mid ++ [m]) :
    ∃ init, cut state before held rest = (init ++ [⟨[], 0⟩], {}) ∧
      cut state before held (mid ++ m :: us) = (init ++ (segments us).1, (segments us).2) := by
  have hm := hends.kind
  have hsig := Token.isSignificant_of_mark hm
  fun_induction cut state before held rest generalizing mid with
  | case1 => simp at hrest
  | case2 state before held t rest outcome hend comments others ih =>
    cases mid with
    | nil =>
      obtain ⟨rfl, rfl⟩ := List.cons.inj hrest
      have hstep : outcome = ({}, true) := hends.stepAt_eq (by simp)
      refine ⟨[⟨held.reverse ++ [t], state.placeholders⟩], ?_, ?_⟩
      · simp [others, hstep, comments, trailingComments, cut]
      · rw [List.nil_append, cut, hends.stepAt_eq hslash, if_pos rfl, hline.trailingComments]
        simp [hline.cut_eq hm before]
    | cons u mid =>
      rw [List.cons_append, List.cons.injEq] at hrest
      obtain ⟨rfl, rfl⟩ := hrest
      have hstep : state.stepAt ⟨before, t, mid ++ m :: us⟩ = outcome :=
        congrArg state.step (hends.ofCursor_eq hdot us)
      have hcomments (more : List Token) : trailingComments (mid ++ m :: more) = comments := by
        simp only [comments, trailingComments_append_cons hsig]
      obtain ⟨later, hlater⟩ : comments <+: mid := by
        rw [← hcomments [], trailingComments_append_cons hsig]
        exact trailingComments_isPrefix mid
      have hdrop (more : List Token) :
          (mid ++ m :: more).drop comments.length = later ++ m :: more := by
        rw [← hlater, List.append_assoc, List.drop_left]
      have htail : EndsBehind outcome.1 (t :: before) mid m := hends.tail
      rw [← hlater] at htail
      obtain ⟨init, hfirst, hboth⟩ := ih later
        (htail.skip fun _ => isSignificant_of_mem_trailingComments) (hdrop [])
      refine ⟨⟨held.reverse ++ t :: comments, state.placeholders⟩ :: init, ?_, ?_⟩
      · simp [others, hfirst]
      · rw [List.cons_append, cut, hstep, if_pos hend]
        simp only [hcomments, hdrop, hboth, List.cons_append]
  | case3 state before held t rest outcome hend ih =>
    cases mid with
    | nil =>
      obtain ⟨rfl, rfl⟩ := List.cons.inj hrest
      have hstep : outcome = ({}, true) := hends.stepAt_eq (by simp)
      simp [hstep] at hend
    | cons u mid =>
      rw [List.cons_append, List.cons.injEq] at hrest
      obtain ⟨rfl, rfl⟩ := hrest
      have hstep : state.stepAt ⟨before, t, mid ++ m :: us⟩ = outcome :=
        congrArg state.step (hends.ofCursor_eq hdot us)
      obtain ⟨init, hfirst, hboth⟩ := ih mid hends.tail rfl
      refine ⟨init, hfirst, ?_⟩
      rw [List.cons_append, cut, hstep, if_neg hend, hboth]

theorem Options.statements_append (o : Options) (xs ys : List Segment) :
    o.statements (xs ++ ys) = o.statements xs ++ o.statements ys := by
  simp [Options.statements, Options.raw]

/-- A segment of no tokens gives an entry where empty statements are kept, and none elsewhere. -/
theorem Options.statements_empty (o : Options) :
    o.statements [⟨[], 0⟩] = if o.keepEmptyStatements then [⟨o.trim [], 0⟩] else [] := by
  cases hkeep : o.keepEmptyStatements <;>
    simp [Options.statements, Options.raw, hkeep, Segment.statement, Segment.text, textOf,
      Statement.isBlank, isBlank, Statement.mapText]

/-- A script that ends with the end of a statement, and one that starts on a line of its own with no
slash, are split together as they are split alone. Where empty statements are kept, the first alone
leaves one more behind its end. -/
theorem split_append (hfirst : tokens first = passed ++ [m])
    (hends : passed.length ∈ boundaries (tokens first)) (hline : ∀ c ∈ second.head?, c = '\n')
    (hslash : ∀ t ∈ (significant (tokens second)).head?, t.kind ≠ .separator) :
    (o.keepEmptyStatements = false →
        (split o (first ++ second)).statements =
          (split o first).statements ++ (split o second).statements) ∧
      (o.keepEmptyStatements = true →
        (split o (first ++ second)).statements =
          (split o first).statements.dropLast ++ (split o second).statements) := by
  rw [hfirst] at hends
  have hbehind := EndsBehind.of_mem_boundaries hends
  have hmem : m ∈ tokens first := by simp [hfirst]
  have hdot : m.text ≠ ['.'] := by
    rcases hbehind.kind with hk | hk
    · simp [text_of_terminator hmem hk]
    · simp [text_of_separator hmem hk]
  have htokens : tokens (first ++ second) = passed ++ m :: tokens second := by
    rw [tokens_append hfirst hbehind.kind hline, hfirst, List.append_assoc]
    rfl
  obtain ⟨init, halone, hboth⟩ := cut_of_endsBehind {} [] [] _ passed hbehind hdot
    (startsWithLine_tokens hline) hslash rfl
  have hsplit : (split o first).statements = o.statements init ++ o.statements [⟨[], 0⟩] := by
    rw [split, hfirst, segments, halone, Options.statements_append]
  have hsplits : (split o (first ++ second)).statements =
      o.statements init ++ (split o second).statements := by
    rw [split, htokens, segments, hboth, Options.statements_append, split]
  rw [hsplit, hsplits, Options.statements_empty]
  constructor
  · intro hkeep
    simp [hkeep]
  · intro hkeep
    simp [hkeep]

theorem split_append_of_slash :
    (split .verbatim ("a;\n/".toList ++ "\nb".toList)).statements =
      (split .verbatim "a;\n/".toList).statements.dropLast ++
        (split .verbatim "\nb".toList).statements := by
  have hfirst : tokens "a;\n/".toList =
      [⟨.word, ['a']⟩, ⟨.terminator, [';']⟩, ⟨.space, ['\n']⟩] ++ [⟨.separator, ['/']⟩] := by
    decide +kernel
  have hline : ∀ c ∈ "\nb".toList.head?, c = '\n' := by
    intro c hc
    cases hc
    rfl
  exact (split_append hfirst (by decide +kernel) hline (by decide +kernel)).2 rfl

end SqlScript
