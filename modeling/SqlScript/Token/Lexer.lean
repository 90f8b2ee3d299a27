import SqlScript.Token
import SqlScript.Token.Scan

/-!
The lexer. At each place the first rule that accepts the text gives the next token, and the last
rule accepts every character, so any text has tokens and they spell it out again
(`textOf_tokens`).
-/

namespace SqlScript

namespace Lexer

open Scan

/-- The shapes of lexemes in order of preference: comments and quoted texts come before the marks
that they may contain. `previous` is the character before the text. -/
def rules (previous : Option Char) : List (Kind × Scanner) :=
  [(.lineComment, lineComment?), (.blockComment, blockComment?), (.stringLiteral, string?),
   (.stringLiteral, dollarString?), (.quotedName, quotedName? '"'),
   (.quotedName, quotedName? '\x60'), (.quotedName, bracketName? previous),
   (.placeholder, single? '?'), (.terminator, single? ';'), (.separator, single? '/'),
   (.word, word?), (.word, number?), (.space, space?), (.other, anyChar?)]

/-- The first token of a text, and the rest of it. -/
def next? (previous : Option Char) (s : List Char) : Option (Token × List Char) :=
  (rules previous).findSome? fun rule => (rule.2 s).map fun split => (⟨rule.1, split.1⟩, split.2)

theorem rules_split (previous : Option Char) : ∀ rule ∈ rules previous, Splits rule.2 := by
  simp only [rules, List.forall_mem_cons]
  exact ⟨lineComment?_splits, blockComment?_splits, string?_splits, dollarString?_splits,
    quotedName?_splits _, quotedName?_splits _, bracketName?_splits _, single?_splits _,
    single?_splits _, single?_splits _, word?_splits, number?_splits, space?_splits,
    anyChar?_splits, by simp⟩

theorem exists_rule_of_next? {previous : Option Char} {s rest : List Char} {t : Token}
    (h : next? previous s = some (t, rest)) :
    ∃ rule ∈ rules previous, rule.1 = t.kind ∧ rule.2 s = some (t.text, rest) := by
  obtain ⟨rule, hmem, hrule⟩ := List.exists_of_findSome?_eq_some h
  obtain ⟨split, hsplit, heq⟩ := Option.map_eq_some_iff.1 hrule
  cases heq
  exact ⟨rule, hmem, rfl, hsplit⟩

theorem text_append_of_next? {previous : Option Char} {s rest : List Char} {t : Token}
    (h : next? previous s = some (t, rest)) : t.text ++ rest = s ∧ t.text ≠ [] := by
  obtain ⟨rule, hmem, -, hsplit⟩ := exists_rule_of_next? h
  exact rules_split previous rule hmem s _ _ hsplit

theorem length_lt_of_next? {previous : Option Char} {s rest : List Char} {t : Token}
    (h : next? previous s = some (t, rest)) : rest.length < s.length := by
  obtain ⟨rfl, hne⟩ := text_append_of_next? h
  have := List.length_pos_iff.2 hne
  simp only [List.length_append]
  omega

theorem next?_eq_none_iff {previous : Option Char} {s : List Char} :
    next? previous s = none ↔ s = [] := by
  constructor
  · intro h
    have hany := List.findSome?_eq_none_iff.1 h (.other, anyChar?) (by simp [rules])
    cases s with
    | nil => rfl
    | cons => simp [anyChar?] at hany
  · rintro rfl
    rfl

/-- The tokens of a text that follows the character `previous`. -/
def tokensAfter (previous : Option Char) (s : List Char) : List Token :=
  match _h : next? previous s with
  | none => []
  | some (t, rest) => t :: tokensAfter t.text.getLast? rest
termination_by s.length
decreasing_by exact length_lt_of_next? (by assumption)

theorem textOf_tokensAfter (previous : Option Char) (s : List Char) :
    textOf (tokensAfter previous s) = s := by
  fun_induction tokensAfter previous s with
  | case1 previous s h => exact (next?_eq_none_iff.1 h).symm
  | case2 previous s t rest h ih =>
    obtain ⟨heq, -⟩ := text_append_of_next? h
    simp only [textOf, List.flatMap_cons] at ih ⊢
    rw [ih, heq]

end Lexer

/-- The tokens of a script. -/
def tokens (script : List Char) : List Token :=
  Lexer.tokensAfter none script

theorem textOf_tokens (script : List Char) : textOf (tokens script) = script :=
  Lexer.textOf_tokensAfter none script

/-- The tokens of a script with their places in it. -/
def placedTokens (script : List Char) : List PlacedToken :=
  place .start (tokens script)

/-- The token that the rules find at an offset, where no token of the script need start. -/
def tokenAt? (script : List Char) (offset : Nat) : Option Token :=
  (Lexer.next? (script.take offset).getLast? (script.drop offset)).map (·.1)

end SqlScript
