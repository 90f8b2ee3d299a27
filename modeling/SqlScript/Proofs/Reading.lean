import SqlScript.Proofs.Locality

namespace SqlScript

namespace Lexer

open Scan

variable {previous previous' : Option Char} {s rest rest' : List Char} {t : Token}

theorem next?_eq_some_iff :
    next? previous s = some (t, rest) ↔
      ∃ earlier rule later, rules previous = earlier ++ rule :: later ∧ rule.1 = t.kind ∧
        rule.2 s = some (t.text, rest) ∧ ∀ r ∈ earlier, r.2 s = none := by
  rw [next?, List.findSome?_eq_some_iff]
  constructor
  · rintro ⟨earlier, rule, later, hrules, hrule, hearlier⟩
    obtain ⟨split, hsplit, heq⟩ := Option.map_eq_some_iff.1 hrule
    cases heq
    exact ⟨earlier, rule, later, hrules, rfl, hsplit,
      fun r hr => Option.map_eq_none_iff.1 (hearlier r hr)⟩
  · rintro ⟨earlier, rule, later, hrules, hkind, hsplit, hearlier⟩
    refine ⟨earlier, rule, later, hrules, ?_, fun r hr => Option.map_eq_none_iff.2 (hearlier r hr)⟩
    rw [hsplit, hkind]
    rfl

/-- A token is read again if the rule that read it accepts it again, and no comment or string starts
with it. -/
theorem next?_of_openers (h : next? previous (t.text ++ rest) = some (t, rest))
    (hopeners : ∀ scanner ∈ openers, scanner (t.text ++ rest) = none →
      scanner (t.text ++ rest') = none)
    (haccepts : ∀ rule ∈ rules previous, rule.1 = t.kind →
      rule.2 (t.text ++ rest) = some (t.text, rest) →
      rule.2 (t.text ++ rest') = some (t.text, rest')) :
    next? previous (t.text ++ rest') = some (t, rest') := by
  obtain ⟨earlier, rule, later, hrules, hkind, hsplit, hearlier⟩ := next?_eq_some_iff.1 h
  have hmem : ∀ r ∈ earlier ++ rule :: later, r ∈ rules previous := fun r hr => hrules ▸ hr
  refine next?_eq_some_iff.2 ⟨earlier, rule, later, hrules, hkind, ?_, fun r hr => ?_⟩
  · exact haccepts rule (hmem rule (by simp)) hkind hsplit
  · have hr' := hmem r (by simp [hr])
    have hnone := hearlier r hr
    by_cases hopener : r.1 ∈ [.lineComment, .blockComment, .stringLiteral]
    · exact hopeners r.2 (mem_openers r hr' hopener) hnone
    · obtain ⟨c, text, htext⟩ := List.exists_cons_of_ne_nil (text_append_of_next? h).2
      rw [htext] at hnone ⊢
      exact rules_tellByHead previous r hr' hopener c _ _ hnone

theorem next?_of_accepts (h : next? previous (t.text ++ rest) = some (t, rest))
    (hagrees : Agrees rest rest') (hdash : KeepsDash t.text rest rest')
    (haccepts : ∀ rule ∈ rules previous, rule.1 = t.kind →
      rule.2 (t.text ++ rest) = some (t.text, rest) →
      rule.2 (t.text ++ rest') = some (t.text, rest')) :
    next? previous (t.text ++ rest') = some (t, rest') :=
  next?_of_openers h (fun scanner hmem =>
    openers_reject scanner hmem (text_append_of_next? h).2 hagrees hdash) haccepts

/-- What stands before a text matters only to a bracket at its start. -/
theorem next?_congr_previous (h : s.head? = some '[' →
      previous.any takesSubscript = previous'.any takesSubscript) :
    next? previous s = next? previous' s := by
  have hbracket : bracketName? previous s = bracketName? previous' s := by
    rw [bracketName?.eq_def, bracketName?.eq_def]
    split
    · rw [h rfl]
    · rfl
  simp only [next?, rules, List.findSome?_cons, hbracket]

theorem tokensAfter_congr_previous (h : s.head? = some '[' →
      previous.any takesSubscript = previous'.any takesSubscript) :
    tokensAfter previous s = tokensAfter previous' s := by
  rw [tokensAfter, tokensAfter, next?_congr_previous h]

theorem string?_of_head {c : Char} (hquote : c ≠ '\'') (hmarker : isStringMarker c = false)
    (s : List Char) : string? (c :: s) = none := by
  unfold string?
  split
  · next heq => exact absurd (List.cons.inj heq).1 hquote
  · next heq =>
    cases heq
    rw [if_neg (by simp [hmarker])]
  · rfl

theorem string?_of_isBreak {c : Char} (hc : isBreak c = true) (s : List Char) :
    string? (c :: s) = none := by
  refine string?_of_head ?_ ?_ s
  · rintro rfl
    exact absurd hc (by decide)
  · by_contra h
    simp only [isStringMarker, List.contains_iff_mem, List.mem_cons, List.not_mem_nil,
      or_false, Bool.not_eq_false] at h
    rcases h with rfl | rfl | rfl | rfl | rfl | rfl | rfl | rfl <;> revert hc <;> decide

theorem rules_reject_of_isBreak {c : Char} (hc : isBreak c = true) (hslash : c ≠ '/')
    (hbracket : c = '[' → previous.any takesSubscript = true) (s : List Char) :
    ∀ rule ∈ rules previous, rule.1 ∉ [.placeholder, .terminator, .space, .other] →
      rule.2 (c :: s) = none := by
  have hne {d : Char} (hd : isBreak d = false) : c ≠ d := by
    rintro rfl
    simp [hc] at hd
  have hword : isWordPart c = false := by
    by_contra h
    simp [not_isBreak_of_isWordPart (by simpa using h)] at hc
  simp only [rules, List.forall_mem_cons]
  refine ⟨fun _ => ?_, fun _ => ?_, fun _ => ?_, fun _ => ?_, fun _ => ?_, fun _ => ?_, fun _ => ?_,
    fun h => absurd (by decide) h, fun h => absurd (by decide) h, fun _ => ?_, fun _ => ?_,
    fun _ => ?_, fun h => absurd (by decide) h, fun h => absurd (by decide) h, by simp⟩
  · simp [lineComment?, hne (d := '-') (by decide)]
  · simp [blockComment?, hslash]
  · exact string?_of_isBreak hc s
  · simp [dollarString?, hne (d := '$') (by decide)]
  · simp [quotedName?, hne (d := '"') (by decide)]
  · simp [quotedName?, hne (d := '\x60') (by decide)]
  · by_cases hc' : c = '['
    · simp [bracketName?, hc', hbracket hc']
    · simp [bracketName?, hc']
  · simp [single?, hslash]
  · have hstart : Text.isWordStart c = false := by
      by_contra h
      simp [isWordPart_of_isWordStart (by simpa using h)] at hword
    simp [word?, hstart]
  · have hdigit : c.isDigit = false := by
      by_contra h
      simp [not_isBreak_of_isDigit (by simpa using h)] at hc
    simp [number?, splitRun, hdigit]

theorem isBreak_of_isSpace {c : Char} (h : Text.isSpace c = true) : isBreak c = true := by
  have hspaces : ∀ n ∈ Text.spaces, isBreak (Char.ofNat n) = true := by decide +kernel
  rw [← Char.ofNat_toNat c]
  exact hspaces _ (Text.toNat_mem_spaces h)

theorem next?_of_isSpace {c : Char} (hc : Text.isSpace c = true) (s : List Char) :
    next? previous (c :: s) =
      some (⟨.space, c :: s.takeWhile Text.isSpace⟩, s.dropWhile Text.isSpace) := by
  have hne {d : Char} (hd : Text.isSpace d = false) : c ≠ d := by
    rintro rfl
    simp [hc] at hd
  have hbracket : c = '[' → previous.any takesSubscript = true :=
    fun h => absurd h (hne (by decide))
  have hrejects := rules_reject_of_isBreak (isBreak_of_isSpace hc) (hne (by decide)) hbracket s
  simp only [rules, List.forall_mem_cons] at hrejects
  obtain ⟨hline, hblock, hstring, hdollar, hquoted, hback, hname, -, -, hseparator, hword, hnumber,
    -⟩ := hrejects
  simp only [next?, rules, List.findSome?_cons, hline (by decide), hblock (by decide),
    hstring (by decide), hdollar (by decide), hquoted (by decide), hback (by decide),
    hname (by decide), hseparator (by decide), hword (by decide), hnumber (by decide),
    Option.map_none]
  simp [single?, space?, splitRun, Split.opened, hc, hne (d := '?') (by decide),
    hne (d := ';') (by decide)]

theorem tokensAfter_of_next? (h : next? previous s = some (t, rest)) :
    tokensAfter previous s = t :: tokensAfter t.text.getLast? rest := by
  rw [tokensAfter]
  split
  · next hnone => simp [h] at hnone
  · next hsome =>
    rw [h] at hsome
    cases hsome
    rfl

@[simp] theorem tokensAfter_nil (previous : Option Char) : tokensAfter previous [] = [] := by
  rw [tokensAfter]
  split
  · rfl
  · next hsome => simp [next?_eq_none_iff.2] at hsome

theorem tokensAfter_spaces {spaces : List Char} (hne : spaces ≠ [])
    (hspaces : ∀ c ∈ spaces, Text.isSpace c = true) (previous : Option Char) (s : List Char) :
    ∃ gap ts, tokensAfter spaces.getLast? s = gap ++ ts ∧ (∀ u ∈ gap, u.isSignificant = false) ∧
      tokensAfter previous (spaces ++ s) = ⟨.space, spaces ++ textOf gap⟩ :: ts := by
  obtain ⟨c, init, rfl⟩ := List.exists_cons_of_ne_nil hne
  obtain ⟨hc, hinit⟩ := List.forall_mem_cons.1 hspaces
  have hread := tokensAfter_of_next? (@next?_of_isSpace previous c hc (init ++ s))
  rw [List.takeWhile_append_of_pos hinit, List.dropWhile_append_of_pos hinit] at hread
  by_cases hs : ∃ d s', s = d :: s' ∧ Text.isSpace d = true
  · obtain ⟨d, s', rfl, hd⟩ := hs
    have hlast (more : List Char) : (c :: (init ++ d :: more)).getLast? = (d :: more).getLast? := by
      rw [← List.cons_append, List.getLast?_append_of_ne_nil _ (List.cons_ne_nil d more)]
    rw [List.takeWhile_cons_of_pos hd, List.dropWhile_cons_of_pos hd] at hread
    dsimp only at hread
    rw [hlast] at hread
    refine ⟨[⟨.space, d :: s'.takeWhile Text.isSpace⟩], _,
      tokensAfter_of_next? (next?_of_isSpace hd s'), by simp [Token.isSignificant], ?_⟩
    simpa [textOf] using hread
  · have hstop : s.takeWhile Text.isSpace = [] ∧ s.dropWhile Text.isSpace = s := by
      cases s with
      | nil => exact ⟨rfl, rfl⟩
      | cons d s' =>
        have hd : ¬ Text.isSpace d = true := fun hd => hs ⟨d, s', rfl, hd⟩
        exact ⟨List.takeWhile_cons_of_neg hd, List.dropWhile_cons_of_neg hd⟩
    rw [hstop.1, hstop.2, List.append_nil] at hread
    exact ⟨[], _, rfl, by simp, by simpa [textOf] using hread⟩

/-- White space at the start of a text adds no significant token. -/
theorem significant_tokensAfter_append {spaces : List Char} (hne : spaces ≠ [])
    (hspaces : ∀ c ∈ spaces, Text.isSpace c = true) (s : List Char) :
    significant (tokensAfter previous (spaces ++ s)) =
      significant (tokensAfter spaces.getLast? s) := by
  obtain ⟨gap, ts, hread, hgap, heq⟩ := tokensAfter_spaces hne hspaces previous s
  rw [heq, hread, significant_append, significant_eq_nil hgap, significant_cons,
    if_neg (by simp [Token.isSignificant])]
  rfl

theorem not_takesSubscript_of_isSpace {c : Char} (h : Text.isSpace c = true) :
    takesSubscript c = false := by
  have hspaces : ∀ n ∈ Text.spaces, takesSubscript (Char.ofNat n) = false := by decide +kernel
  rw [← Char.ofNat_toNat c]
  exact hspaces _ (Text.toNat_mem_spaces h)

theorem any_takesSubscript_getLast? {spaces : List Char}
    (hspaces : ∀ c ∈ spaces, Text.isSpace c = true) :
    spaces.getLast?.any takesSubscript = false := by
  cases hlast : spaces.getLast? with
  | none => rfl
  | some c => exact not_takesSubscript_of_isSpace (hspaces c (List.mem_of_getLast? hlast))

theorem significant_tokensAfter_dropWhile (s : List Char) :
    significant (tokensAfter none (s.dropWhile Text.isSpace)) =
      significant (tokensAfter none s) := by
  have hspaces : ∀ c ∈ s.takeWhile Text.isSpace, Text.isSpace c = true :=
    fun c hc => List.mem_takeWhile_imp hc
  conv_rhs => rw [← List.takeWhile_append_dropWhile (p := Text.isSpace) (l := s)]
  by_cases hnil : s.takeWhile Text.isSpace = []
  · rw [hnil, List.nil_append]
  · have hsame : (none : Option Char).any takesSubscript =
        (s.takeWhile Text.isSpace).getLast?.any takesSubscript :=
      (any_takesSubscript_getLast? hspaces).symm
    rw [significant_tokensAfter_append hnil hspaces, tokensAfter_congr_previous fun _ => hsame]

/-- The tokens are read one after another off the start of a text, and `rest` is left of it. -/
inductive Reads : Option Char → List Token → List Char → Prop
  | nil {previous : Option Char} {rest : List Char} : Reads previous [] rest
  | cons {previous : Option Char} {t : Token} {ts : List Token} {rest : List Char}
      (ht : next? previous (t.text ++ (textOf ts ++ rest)) = some (t, textOf ts ++ rest))
      (hts : Reads t.text.getLast? ts rest) : Reads previous (t :: ts) rest

theorem reads_tokensAfter (previous : Option Char) (s : List Char) :
    Reads previous (tokensAfter previous s) [] := by
  fun_induction tokensAfter previous s with
  | case1 => exact .nil
  | case2 previous s t rest h ih =>
    refine .cons ?_ ih
    rw [textOf_tokensAfter, List.append_nil, (text_append_of_next? h).1, h]

theorem textOf_cons (t : Token) (ts : List Token) : textOf (t :: ts) = t.text ++ textOf ts :=
  List.flatMap_cons

theorem Reads.text_ne_nil {ts : List Token} (h : Reads previous ts rest) :
    ∀ t ∈ ts, t.text ≠ [] := by
  induction h with
  | nil => simp
  | cons ht _ ih => exact List.forall_mem_cons.2 ⟨(text_append_of_next? ht).2, ih⟩

theorem Reads.isSpace {ts : List Token} (h : Reads previous ts rest) :
    ∀ t ∈ ts, t.kind = .space → ∀ c ∈ t.text, Text.isSpace c = true := by
  induction h with
  | nil => simp
  | cons ht _ ih => exact List.forall_mem_cons.2 ⟨fun hk => isSpace_of_next? ht hk, ih⟩

theorem getLast?_append_or (a b : List Char) (previous : Option Char) :
    (a ++ b).getLast?.or previous = b.getLast?.or (a.getLast?.or previous) := by
  rw [List.getLast?_append, Option.or_assoc]

theorem getLast?_or_of_ne_nil {a : List Char} (ha : a ≠ []) (previous : Option Char) :
    a.getLast?.or previous = a.getLast? := by
  rw [List.getLast?_eq_some_getLast ha, Option.some_or]

theorem Reads.of_append {xs ys : List Token} (h : Reads previous (xs ++ ys) rest) :
    Reads previous xs (textOf ys ++ rest) ∧ Reads ((textOf xs).getLast?.or previous) ys rest := by
  induction xs generalizing previous with
  | nil => exact ⟨.nil, h⟩
  | cons x xs ih =>
    cases h with
    | cons hx hxs =>
      obtain ⟨hfirst, hsecond⟩ := ih hxs
      refine ⟨.cons (by simpa using hx) hfirst, ?_⟩
      rwa [textOf_cons, getLast?_append_or,
        getLast?_or_of_ne_nil (text_append_of_next? hx).2]

theorem lineComment_of_next? (h : next? previous s = some (t, rest)) (ht : t.kind = .lineComment) :
    ∃ body, t.text = '-' :: '-' :: body ∧ '\n' ∉ body ∧ ∀ c ∈ rest.head?, c = '\n' := by
  have hsplit := scan_of_next? lineComment? h (by simp [rules, ht])
  unfold lineComment? at hsplit
  split at hsplit
  · next s =>
    obtain ⟨body, htext, hrun⟩ := exists_of_opened (Option.some.inj hsplit)
    rw [splitRun, Prod.mk.injEq] at hrun
    refine ⟨body, htext, ?_, ?_⟩
    · intro hmem
      rw [← hrun.1] at hmem
      simpa using List.mem_takeWhile_imp hmem
    · intro c hc
      have hnot := List.head?_dropWhile_not (· != '\n') s
      rw [hrun.2, hc] at hnot
      simpa using hnot
  · cases hsplit

/-- The kinds of layout and of the marks between statements. -/
def gapKinds : List Kind :=
  [.space, .lineComment, .blockComment, .terminator, .separator]

theorem not_takesSubscript_of_layout (h : next? previous (t.text ++ rest) = some (t, rest))
    (ht : t.kind ∈ gapKinds) (hrest : rest.head? = some '[') :
    t.text.getLast?.any takesSubscript = false := by
  simp only [gapKinds, List.mem_cons, List.not_mem_nil, or_false] at ht
  rcases ht with hk | hk | hk | hk | hk
  · exact any_takesSubscript_getLast? (isSpace_of_next? h hk)
  · obtain ⟨-, -, -, hline⟩ := lineComment_of_next? h hk
    simp [hrest] at hline
  · have hsplit := scan_of_next? blockComment? h (by simp [rules, hk])
    unfold blockComment? at hsplit
    split at hsplit
    · next s _ =>
      obtain ⟨a, ha, ht⟩ := exists_of_opened (Option.some.inj hsplit)
      have hclosed := splitThrough_closed ['*', '/'] s
      rw [ht] at hclosed
      rcases hclosed with hnil | ⟨body, rfl⟩
      · simp [show rest = [] from hnil] at hrest
      · have htext : t.text = (['/', '*'] ++ (body ++ ['*'])) ++ ['/'] := by simp [ha]
        rw [htext, List.getLast?_concat]
        decide
    · cases hsplit
  · have htext : t.text = [';'] := text_of_next?_single h (by simp [rules, hk])
    rw [htext]
    decide
  · have htext : t.text = ['/'] := text_of_next?_single h (by simp [rules, hk])
    rw [htext]
    decide

end Lexer

end SqlScript
