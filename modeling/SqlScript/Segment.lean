import SqlScript.Token.Lexer
import SqlScript.Nesting

/-!
Segments: the tokens of a script cut after each token that ends a statement and the comments that
share its line. The tokens of the segments in order are the tokens of the script (`tokens_cut`).
-/

namespace SqlScript

/-- The layout at the start of a list of tokens up to the last comment before a line feed. -/
def trailingComments : List Token → List Token
  | [] => []
  | t :: rest =>
    match t.kind with
    | .lineComment => [t]
    | .blockComment => if t.hasNewline then [] else t :: trailingComments rest
    | .space =>
      if t.hasNewline then []
      else match trailingComments rest with
        | [] => []
        | comments => t :: comments
    | _ => []

theorem trailingComments_isPrefix (tokens : List Token) : trailingComments tokens <+: tokens := by
  induction tokens with
  | nil => exact List.prefix_rfl
  | cons t rest ih =>
    unfold trailingComments
    split
    · simp
    · split
      · simp
      · simpa using ih
    · split
      · simp
      · split
        · simp
        · simpa using ih
    · simp

theorem isSignificant_of_mem_trailingComments {tokens : List Token} {t : Token}
    (h : t ∈ trailingComments tokens) : t.isSignificant = false := by
  induction tokens with
  | nil => simp [trailingComments] at h
  | cons u rest ih =>
    unfold trailingComments at h
    split at h
    · next hk => simp_all [Token.isSignificant, Token.isComment]
    · next hk =>
      split at h
      · simp at h
      · rcases List.mem_cons.1 h with rfl | h
        · simp [Token.isSignificant, Token.isComment, hk]
        · exact ih h
    · next hk =>
      split at h
      · simp at h
      · split at h
        · simp at h
        · rcases List.mem_cons.1 h with rfl | h
          · simp [Token.isSignificant, hk]
          · exact ih h
    · simp at h

/-- The tokens of a statement, terminator and trailing comments included, and its placeholders. -/
structure Segment where
  tokens : List Token
  placeholders : Nat
deriving DecidableEq, Repr

/-- The segments of the tokens still to come and the nesting at their end. `before` holds the tokens
passed and `held` those of them that belong to the statement at hand, nearest first. -/
def cut (state : Nesting) (before held : List Token) : List Token → List Segment × Nesting
  | [] => ([⟨held.reverse, state.placeholders⟩], state)
  | t :: rest =>
    let outcome := state.stepAt ⟨before, t, rest⟩
    if outcome.2 then
      let comments := trailingComments rest
      let others := cut outcome.1 (comments.reverse ++ t :: before) [] (rest.drop comments.length)
      (⟨held.reverse ++ t :: comments, state.placeholders⟩ :: others.1, others.2)
    else cut outcome.1 (t :: before) (t :: held) rest
termination_by rest => rest.length
decreasing_by
  · simp only [List.length_drop, List.length_cons]
    omega
  · simp

/-- The segments of a list of tokens, the last of which may lack a terminator, and the nesting at
the end of the list. -/
def segments (tokens : List Token) : List Segment × Nesting :=
  cut {} [] [] tokens

theorem tokens_cut (state : Nesting) (before held rest : List Token) :
    (cut state before held rest).1.flatMap (·.tokens) = held.reverse ++ rest := by
  fun_induction cut state before held rest with
  | case1 => simp
  | case2 state before held t rest outcome h comments others ih =>
    have := List.prefix_iff_eq_append.1 (trailingComments_isPrefix rest)
    simp only [List.flatMap_cons, others, ih, List.reverse_nil, List.nil_append, comments,
      List.append_assoc, List.cons_append, this]
  | case3 state before held t rest outcome h ih => simpa using ih

theorem tokens_segments (tokens : List Token) :
    (segments tokens).1.flatMap (·.tokens) = tokens := by
  simp [segments, tokens_cut]

end SqlScript
