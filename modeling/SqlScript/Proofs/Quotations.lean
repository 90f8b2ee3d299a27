import SqlScript.Proofs.Trimming

namespace SqlScript

open Lexer Scan

/-- How a text is quoted: what opens it, what closes it, and which two characters in it are read as
one, so that neither of them closes it. -/
structure Quotation where
  opener : List Char
  closer : List Char
  isPair : Char → Char → Bool

namespace Quotation

/-- A text that a mark closes. In it the mark stands doubled, and where `escapes` says so any
character behind a backslash. -/
def marked (opener : List Char) (mark : Char) (escapes : Bool) : Quotation :=
  ⟨opener, [mark], fun c d => (c == mark && d == mark) || (escapes && c == '\\')⟩

/-- A text that the first closer closes, whatever stands in front of it. -/
def plain (opener closer : List Char) : Quotation :=
  ⟨opener, closer, fun _ _ => false⟩

/-- The quotations of each kind of token. -/
inductive Quotes : Kind → Quotation → Prop
  | comment : Quotes .blockComment (plain ['/', '*'] ['*', '/'])
  | string : Quotes .stringLiteral (marked ['\''] '\'' true)
  | markedString {c} (hc : isStringMarker c = true) :
      Quotes .stringLiteral (marked [c, '\''] '\'' true)
  | dollarString {tag} (htag : ∀ c ∈ tag, isTagChar c = true)
      (hdigit : tag.head?.any Char.isDigit = false) :
      Quotes .stringLiteral (plain ('$' :: tag ++ ['$']) ('$' :: tag ++ ['$']))
  | name {mark} (hmark : mark = '"' ∨ mark = '\x60') : Quotes .quotedName (marked [mark] mark false)
  | bracketName : Quotes .quotedName (plain ['['] [']'])

/-- A text starts with two characters that are read as one. -/
def startsPair (q : Quotation) : List Char → Bool
  | c :: d :: _ => q.isPair c d
  | _ => false

/-- No closer is met where a text with `rest` behind it is read from its start. -/
inductive Unclosed (q : Quotation) (rest : List Char) : List Char → Prop
  | nil : Unclosed q rest []
  | pair {c d s} (hpair : q.isPair c d = true) (hs : Unclosed q rest s) :
      Unclosed q rest (c :: d :: s)
  | char {c s} (hpair : q.startsPair (c :: s ++ rest) = false)
      (hcloser : ¬ q.closer <+: c :: s ++ rest) (hs : Unclosed q rest s) : Unclosed q rest (c :: s)

/-- What stands behind an opener up to the end of the quoted text, and what is left behind that: the
text ends with the first closer, or with the script. -/
inductive Ends (q : Quotation) : List Char → List Char → Prop
  | closed {a rest} (ha : q.Unclosed (q.closer ++ rest) a)
      (hpair : q.startsPair (q.closer ++ rest) = false) : Ends q (a ++ q.closer) rest
  | unclosed {a} (ha : q.Unclosed [] a) : Ends q a []

variable {q : Quotation} {c d mark : Char} {a rest opener stop s : List Char} {escapes : Bool}

theorem Ends.pair (h : q.Ends a rest) (hpair : q.isPair c d = true) :
    q.Ends (c :: d :: a) rest := by
  cases h with
  | closed ha hend => exact .closed (a := c :: d :: _) (.pair hpair ha) hend
  | unclosed ha => exact .unclosed (.pair hpair ha)

theorem Ends.char (h : q.Ends a rest) (hpair : q.startsPair (c :: a ++ rest) = false)
    (hcloser : ¬ q.closer <+: c :: a ++ rest) : q.Ends (c :: a) rest := by
  cases h with
  | @closed a _ ha hend =>
    rw [List.cons_append, List.append_assoc] at hpair hcloser
    exact .closed (a := c :: a) (.char hpair hcloser ha) hend
  | unclosed ha => exact .unclosed (.char hpair hcloser ha)

theorem startsPair_plain (opener stop s : List Char) :
    (plain opener stop).startsPair s = false := by
  unfold startsPair
  split <;> rfl

theorem ends_splitThrough (opener stop s : List Char) :
    (plain opener stop).Ends (splitThrough stop s).1 (splitThrough stop s).2 := by
  induction s with
  | nil => exact .unclosed .nil
  | cons c s ih =>
    rw [splitThrough]
    split
    · exact .closed (a := []) .nil (startsPair_plain ..)
    · next hstop =>
      apply ih.char (startsPair_plain ..)
      rw [List.cons_append, splitThrough_append]
      rwa [List.isPrefixOf_iff_prefix] at hstop

theorem ends_splitQuoted (opener : List Char) (hmark : mark ≠ '\\') (s : List Char) :
    (marked opener mark escapes).Ends (splitQuoted mark escapes s).1
      (splitQuoted mark escapes s).2 := by
  fun_induction splitQuoted mark escapes s with
  | case1 => exact .unclosed .nil
  | case2 c =>
    by_cases hc : c = mark
    · subst hc
      exact .closed (a := []) .nil rfl
    · exact .unclosed (.char rfl (by simp [marked, Ne.symm hc]) .nil)
  | case3 s ih => exact ih.pair (by simp [marked])
  | case4 d s hd =>
    exact .closed (a := []) .nil (by simp [startsPair, marked, hd, hmark])
  | case5 c d s hc hescape ih => exact ih.pair (by simp [marked, hescape])
  | case6 c d s hc hescape ih =>
    apply ih.char
    · rw [List.cons_append, splitQuoted_append]
      simp [startsPair, marked, hc, hescape]
    · rw [List.cons_append, splitQuoted_append]
      simp [marked, Ne.symm hc]

end Quotation

namespace Scan

open Quotation

/-- Every lexeme that the scanner accepts is a text in one of the quotations of a kind. -/
def Encloses (k : Kind) (scanner : Scanner) : Prop :=
  ∀ ⦃s a rest⦄, scanner s = some (a, rest) →
    ∃ q body, Quotes k q ∧ a = q.opener ++ body ∧ q.Ends body rest

theorem exists_quotes_of_opened {k : Kind} {q : Quotation} {t : Split} {a rest : List Char}
    (h : t.opened q.opener = (a, rest)) (hq : Quotes k q) (hends : q.Ends t.1 t.2) :
    ∃ q body, Quotes k q ∧ a = q.opener ++ body ∧ q.Ends body rest := by
  cases h
  exact ⟨q, t.1, hq, rfl, hends⟩

theorem encloses_blockComment? : Encloses .blockComment blockComment? := by
  intro s a rest h
  unfold blockComment? at h
  split at h
  · exact exists_quotes_of_opened (Option.some.inj h) .comment (ends_splitThrough ..)
  · cases h

theorem encloses_string? : Encloses .stringLiteral string? := by
  intro s a rest h
  unfold string? at h
  split at h
  · exact exists_quotes_of_opened (Option.some.inj h) .string (ends_splitQuoted _ (by decide) _)
  · split at h
    · next hc =>
      exact exists_quotes_of_opened (Option.some.inj h) (.markedString hc)
        (ends_splitQuoted _ (by decide) _)
    · cases h
  · cases h

theorem encloses_dollarString? : Encloses .stringLiteral dollarString? := by
  intro s a rest h
  unfold dollarString? at h
  split at h
  · dsimp only at h
    split at h
    · cases h
    · next hdigit =>
      split at h
      · exact exists_quotes_of_opened (Option.some.inj h)
          (.dollarString (fun c hc => List.mem_takeWhile_imp hc) (Bool.eq_false_iff.2 hdigit))
          (ends_splitThrough ..)
      · cases h
  · cases h

theorem encloses_quotedName? {mark : Char} (hmark : mark = '"' ∨ mark = '\x60') :
    Encloses .quotedName (quotedName? mark) := by
  intro s a rest h
  unfold quotedName? at h
  split at h
  · cases h
  · split at h
    · next hc =>
      subst hc
      exact exists_quotes_of_opened (Option.some.inj h) (.name hmark)
        (ends_splitQuoted _ (by rcases hmark with rfl | rfl <;> decide) _)
    · cases h

theorem encloses_bracketName? (previous : Option Char) :
    Encloses .quotedName (bracketName? previous) := by
  intro s a rest h
  unfold bracketName? at h
  split at h
  · split at h
    · cases h
    · exact exists_quotes_of_opened (Option.some.inj h) .bracketName (ends_splitThrough ..)
  · cases h

end Scan

namespace Lexer

open Quotation

/-- The kinds of the tokens that are quoted texts. -/
def quotedKinds : List Kind :=
  [.blockComment, .stringLiteral, .quotedName]

theorem rules_enclose (previous : Option Char) :
    ∀ rule ∈ rules previous, rule.1 ∈ quotedKinds → Encloses rule.1 rule.2 := by
  simp only [rules, List.forall_mem_cons]
  exact ⟨fun h => absurd h (by decide), fun _ => encloses_blockComment?, fun _ => encloses_string?,
    fun _ => encloses_dollarString?, fun _ => encloses_quotedName? (.inl rfl),
    fun _ => encloses_quotedName? (.inr rfl), fun _ => encloses_bracketName? previous,
    fun h => absurd h (by decide), fun h => absurd h (by decide), fun h => absurd h (by decide),
    fun h => absurd h (by decide), fun h => absurd h (by decide), fun h => absurd h (by decide),
    fun h => absurd h (by decide), by simp⟩

/-- The marks that stand between statements or for a value, with their kinds. -/
def marks : List (Char × Kind) :=
  [(';', .terminator), ('?', .placeholder), ('/', .separator)]

variable {previous : Option Char} {s rest : List Char} {t : Token}

theorem single?_mem_rules (previous : Option Char) :
    ∀ mark ∈ marks, (mark.2, single? mark.1) ∈ rules previous := by
  simp [marks, rules]

theorem rules_unbroken (previous : Option Char) :
    ∀ rule ∈ rules previous, rule.1 = .word → Unbroken rule.2 := by
  simp [rules, unbroken_word?, unbroken_number?]

theorem text_of_mark {mark : Char × Kind} (h : next? previous s = some (t, rest))
    (hmark : mark ∈ marks) (hk : t.kind = mark.2) : t.text = [mark.1] := by
  apply text_of_next?_single h
  simp only [marks, List.mem_cons, List.not_mem_nil, or_false] at hmark
  rcases hmark with rfl | rfl | rfl <;> simp [rules, hk]

theorem eq_mark_of_next? (h : next? previous s = some (t, rest))
    (ht : t.kind ∉ .lineComment :: quotedKinds) :
    ∀ mark ∈ marks, mark.1 ∈ t.text → t = ⟨mark.2, [mark.1]⟩ := by
  have hchars : ∀ mark ∈ marks,
      isBreak mark.1 = true ∧ Text.isSpace mark.1 = false ∧ mark.2 ≠ .other := by decide
  have hdistinct : ∀ mark ∈ marks, ∀ mark' ∈ marks, mark.1 = mark'.1 → mark = mark' := by decide
  intro mark hmark hmem
  obtain ⟨hbreak, hspace, hother⟩ := hchars mark hmark
  have hlone {mark' : Char × Kind} (hmark' : mark' ∈ marks) (hk : t.kind = mark'.2) :
      t = ⟨mark.2, [mark.1]⟩ := by
    have htext := text_of_mark h hmark' hk
    rw [htext, List.mem_singleton] at hmem
    obtain rfl := hdistinct mark hmark mark' hmark' hmem
    rw [← hk, ← htext]
  cases hk : t.kind with
  | lineComment => simp [hk] at ht
  | blockComment => simp [hk, quotedKinds] at ht
  | stringLiteral => simp [hk, quotedKinds] at ht
  | quotedName => simp [hk, quotedKinds] at ht
  | placeholder => exact hlone (by simp [marks] : ('?', .placeholder) ∈ marks) hk
  | terminator => exact hlone (by simp [marks] : (';', .terminator) ∈ marks) hk
  | separator => exact hlone (by simp [marks] : ('/', .separator) ∈ marks) hk
  | word =>
    obtain ⟨rule, hrule, hkind, hsplit⟩ := exists_rule_of_next? h
    have hunbroken := rules_unbroken previous rule hrule (hkind.trans hk) hsplit mark.1 hmem
    simp [hbreak] at hunbroken
  | space =>
    have hspaces := isSpace_of_next? h hk mark.1 hmem
    simp [hspace] at hspaces
  | other =>
    obtain ⟨c, htext, rfl, hrejects⟩ := rejects_of_next?_other h hk
    rw [htext, List.mem_singleton] at hmem
    subst hmem
    have hnone := hrejects _ (single?_mem_rules previous mark hmark) hother
    simp [single?] at hnone

end Lexer

open Quotation

variable {script : List Char} {front back : List Token} {t : Token}

theorem exists_next?_of_tokens (h : tokens script = front ++ t :: back) :
    ∃ previous, next? previous (t.text ++ textOf back) = some (t, textOf back) := by
  have hreads := reads_tokensAfter none script
  rw [← tokens, h] at hreads
  cases hreads.of_append.2 with
  | cons ht _ =>
    rw [List.append_nil] at ht
    exact ⟨_, ht⟩

theorem eq_nil_of_textOf (h : tokens script = front ++ t :: back) (hback : textOf back = []) :
    back = [] := by
  cases back with
  | nil => rfl
  | cons u back =>
    rw [textOf_cons, List.append_eq_nil_iff] at hback
    have hu : u ∈ tokens script := by simp [h]
    exact absurd hback.1 (text_ne_nil hu)

/-- A quoted text ends with the first closer behind its opener, and only the last token of a script
may lack one. A comment to the end of the line ends in front of a line feed, or with the script. In
every other token a mark stands alone. -/
theorem quoted_or_bare (h : tokens script = front ++ t :: back) :
    (t.kind ∈ quotedKinds → ∃ q, Quotes t.kind q ∧
      ((∃ body, t.text = q.opener ++ (body ++ q.closer) ∧
          q.Unclosed (q.closer ++ textOf back) body ∧
          q.startsPair (q.closer ++ textOf back) = false) ∨
        back = [] ∧ ∃ body, t.text = q.opener ++ body ∧ q.Unclosed [] body)) ∧
    (t.kind = .lineComment → '\n' ∉ t.text ∧ ∀ c ∈ (textOf back).head?, c = '\n') ∧
    (t.kind ∉ .lineComment :: quotedKinds →
      ∀ mark ∈ marks, mark.1 ∈ t.text → t = ⟨mark.2, [mark.1]⟩) := by
  obtain ⟨previous, hnext⟩ := exists_next?_of_tokens h
  refine ⟨fun hk => ?_, fun hk => ?_, eq_mark_of_next? hnext⟩
  · obtain ⟨rule, hrule, hkind, hsplit⟩ := exists_rule_of_next? hnext
    rw [← hkind] at hk ⊢
    obtain ⟨q, body, hq, htext, hends⟩ := rules_enclose previous rule hrule hk hsplit
    refine ⟨q, hq, ?_⟩
    generalize hleft : textOf back = left at hends
    cases hends with
    | @closed a _ ha hpair => exact .inl ⟨a, htext, ha, hpair⟩
    | unclosed ha => exact .inr ⟨eq_nil_of_textOf h hleft, body, htext, ha⟩
  · obtain ⟨body, htext, hbody, hline⟩ := lineComment_of_next? hnext hk
    exact ⟨by simpa [htext] using hbody, hline⟩

theorem quoted_or_bare_of_escapes :
    tokens "'a''b\\';'/".toList =
        [] ++ ⟨.stringLiteral, "'a''b\\';'".toList⟩ :: [⟨.separator, ['/']⟩] ∧
      ∃ q, Quotes .stringLiteral q ∧
        ∃ body, "'a''b\\';'".toList = q.opener ++ (body ++ q.closer) ∧
          q.Unclosed (q.closer ++ ['/']) body ∧ q.startsPair (q.closer ++ ['/']) = false := by
  have hscript : tokens "'a''b\\';'/".toList =
      [] ++ ⟨.stringLiteral, "'a''b\\';'".toList⟩ :: [⟨.separator, ['/']⟩] := by
    decide +kernel
  obtain ⟨q, hq, hclosed | ⟨hlast, -⟩⟩ := (quoted_or_bare hscript).1 (by decide)
  · exact ⟨hscript, q, hq, hclosed⟩
  · cases hlast

end SqlScript
