import SqlScript.Proofs.Reading

namespace SqlScript

open Lexer Scan

variable {previous : Option Char} {t : Token} {a s rest rest' : List Char}

/-- A comment or a string starts here. -/
def Lexer.startsQuoted (s : List Char) : Bool :=
  openers.any fun scanner => (scanner s).isSome

/-- A number goes on with digits, with a point if it has neither point nor exponent, and with an
exponent if it has none. -/
def Scan.numberTakesUp (number s : List Char) : Bool :=
  s.head?.any Char.isDigit || (number.all Char.isDigit && s.head? == some '.') ||
    (number.all (fun c => c.isDigit || c == '.') && (splitExponent s).1 != [])

/-- Whether a token would be read on into the text `s` behind it. A string and a quoted name go on
with their own mark, a word with the characters of words. What is not quoted may become the start
of a comment or a string. -/
def Token.takesUp (t : Token) (s : List Char) : Bool :=
  match t.kind with
  | .stringLiteral => t.text.head? != some '$' && s.head? == some '\''
  | .quotedName => s.head?.any fun c => c != '[' && t.text.head? == some c
  | .word =>
    startsQuoted (t.text ++ s) ||
      if t.text.head?.any Char.isDigit then numberTakesUp t.text s else s.head?.any isWordPart
  | _ => startsQuoted (t.text ++ s)

namespace Scan

theorem head?_of_string? (h : string? s = some (a, rest)) :
    ∀ c ∈ a.head?, c = '\'' ∨ isStringMarker c = true := by
  unfold string? at h
  split at h
  · cases h
    simp
  · split at h
    · next hmarker =>
      cases h
      simp [hmarker]
    · cases h
  · cases h

theorem head?_of_dollarString? (h : dollarString? s = some (a, rest)) : a.head? = some '$' := by
  unfold dollarString? at h
  split at h
  · dsimp only at h
    split at h
    · cases h
    · split at h
      · cases h
        rfl
      · cases h
  · cases h

theorem head?_of_quotedName? {mark : Char} (h : quotedName? mark s = some (a, rest)) :
    a.head? = some mark := by
  unfold quotedName? at h
  split at h
  · cases h
  · split at h
    · next hc =>
      cases h
      simp [hc]
    · cases h

theorem head?_of_bracketName? (h : bracketName? previous s = some (a, rest)) :
    a.head? = some '[' := by
  unfold bracketName? at h
  split at h
  · split at h
    · cases h
    · cases h
      rfl
  · cases h

theorem head?_of_word? (h : word? s = some (a, rest)) : a.head?.any Char.isDigit = false := by
  unfold word? at h
  split at h
  · cases h
  · next c _ =>
    split at h
    · next hstart =>
      cases h
      rw [Text.isWordStart, Bool.and_eq_true, Bool.not_eq_true'] at hstart
      by_contra hdigit
      have hdigit : c.isDigit = true := by simpa using hdigit
      have hascii := toNat_lt_of_isTagChar (c := c) (by simp [isTagChar, Char.isAlphanum, hdigit])
      simp [Text.isDecimalDigit, hascii, hdigit] at hstart
    · cases h

theorem head?_of_number? (h : number? s = some (a, rest)) : a.head?.any Char.isDigit = true := by
  simp only [number?] at h
  split at h
  · cases h
  · next hwhole =>
    cases h
    obtain ⟨c, whole, hrun⟩ := List.exists_cons_of_ne_nil hwhole
    have hmem : c ∈ s.takeWhile Char.isDigit := by
      rw [show s.takeWhile Char.isDigit = c :: whole from hrun]
      exact List.mem_cons_self
    have hdigit : c.isDigit = true := List.mem_takeWhile_imp hmem
    simp [hrun, hdigit]

theorem head?_splitQuoted (mark : Char) (escapes : Bool) (s : List Char) :
    (splitQuoted mark escapes s).2.head? ≠ some mark := by
  fun_induction splitQuoted mark escapes s <;> simp_all [Split.opened]

theorem head?_splitRun {p : Char → Bool} (hs : splitRun p s = (a, rest)) :
    ∀ c ∈ rest.head?, p c = false := by
  rw [splitRun, Prod.mk.injEq] at hs
  intro c hc
  have hnot := List.head?_dropWhile_not p s
  rw [hs.2, hc] at hnot
  simpa using hnot

theorem rest_of_string? (h : string? s = some (a, rest)) : rest.head? ≠ some '\'' := by
  unfold string? at h
  split at h
  · cases h
    exact head?_splitQuoted _ _ _
  · split at h
    · cases h
      exact head?_splitQuoted _ _ _
    · cases h
  · cases h

theorem rest_of_quotedName? {mark : Char} (h : quotedName? mark s = some (a, rest)) :
    rest.head? ≠ some mark := by
  unfold quotedName? at h
  split at h
  · cases h
  · split at h
    · cases h
      exact head?_splitQuoted _ _ _
    · cases h

theorem rest_of_word? (h : word? s = some (a, rest)) : ∀ c ∈ rest.head?, isWordPart c = false := by
  unfold word? at h
  split at h
  · cases h
  · split at h
    · cases h
      exact head?_splitRun rfl
    · cases h

theorem rest_of_splitFraction (hs : splitFraction s = (a, rest))
    (hdigit : ∀ c ∈ s.head?, c.isDigit = false) :
    (∀ c ∈ rest.head?, c.isDigit = false) ∧ ('.' ∈ a ∨ rest.head? ≠ some '.') := by
  unfold splitFraction at hs
  split at hs
  · cases hs
    exact ⟨head?_splitRun rfl, .inl (by simp)⟩
  · next hpoint =>
    cases hs
    refine ⟨hdigit, .inr fun h => ?_⟩
    obtain ⟨more, rfl⟩ := List.head?_eq_some_iff.1 h
    exact hpoint more rfl

theorem rest_of_splitExponent (hs : splitExponent s = (a, rest))
    (hdigit : ∀ c ∈ s.head?, c.isDigit = false) :
    (∀ c ∈ rest.head?, c.isDigit = false) ∧
      ((∃ c ∈ a, c.isDigit = false ∧ c ≠ '.') ∨ a = [] ∧ rest = s) := by
  unfold splitExponent at hs
  split at hs
  · cases hs
    exact ⟨hdigit, .inr ⟨rfl, rfl⟩⟩
  · next c s =>
    dsimp only at hs
    split at hs
    · next hexponent =>
      cases hs
      refine ⟨head?_splitRun rfl, .inl ⟨c, by simp, ?_⟩⟩
      rcases hexponent.1 with rfl | rfl <;> decide
    · cases hs
      exact ⟨hdigit, .inr ⟨rfl, rfl⟩⟩

theorem any_head?_eq_false_iff {p : Char → Bool} :
    s.head?.any p = false ↔ ∀ c ∈ s.head?, p c = false := by
  cases s <;> simp

theorem numberTakesUp_eq_false_iff : numberTakesUp a s = false ↔
    (∀ c ∈ s.head?, c.isDigit = false) ∧
      ((∀ c ∈ a, c.isDigit = true) → s.head? ≠ some '.') ∧
      ((∀ c ∈ a, c.isDigit = true ∨ c = '.') → splitExponent s = ([], s)) := by
  have hexponent : splitExponent s = ([], s) ↔ (splitExponent s).1 = [] := by
    refine ⟨fun h => by rw [h], fun h => Prod.ext h ?_⟩
    conv_rhs => rw [← splitExponent_append s, h, List.nil_append]
  simp only [numberTakesUp, Bool.or_eq_false_iff, and_assoc, hexponent]
  refine and_congr ?_ (and_congr ?_ ?_)
  · cases s.head? <;> simp
  · rw [Bool.and_eq_false_iff, or_iff_not_imp_left]
    simp
  · rw [Bool.and_eq_false_iff, or_iff_not_imp_left]
    simp only [Bool.not_eq_false, List.all_eq_true, Bool.or_eq_true, beq_iff_eq,
      bne_eq_false_iff_eq]

theorem rest_of_number? (h : number? s = some (a, rest)) : numberTakesUp a rest = false := by
  simp only [number?] at h
  split at h
  · cases h
  · obtain ⟨exponent, rfl, hexponent⟩ := exists_of_opened (Option.some.inj h)
    cases hfraction : splitFraction (splitRun Char.isDigit s).2 with
    | mk fraction s₂ =>
      rw [hfraction] at hexponent
      obtain ⟨hdigit, hpoint⟩ := rest_of_splitFraction hfraction (head?_splitRun rfl)
      obtain ⟨hdigit', hend⟩ := rest_of_splitExponent hexponent hdigit
      rw [numberTakesUp_eq_false_iff]
      refine ⟨hdigit', fun hall => ?_, fun hall => ?_⟩
      · rcases hend with ⟨c, hc, hnot, -⟩ | ⟨-, rfl⟩
        · simp [hall c (by simp [hc])] at hnot
        · exact hpoint.resolve_left fun hmem => absurd (hall '.' (by simp [hmem])) (by decide)
      · rcases hend with ⟨c, hc, hnot, hne⟩ | ⟨rfl, rfl⟩
        · rcases hall c (by simp [hc]) with hdigit | hpoint
          · simp [hdigit] at hnot
          · exact absurd hpoint hne
        · exact hexponent

end Scan

namespace Lexer

/-- Comments and strings are read before anything else. -/
theorem startsQuoted_of_next? (h : next? previous s = some (t, rest))
    (hk : t.kind ∉ [.lineComment, .blockComment, .stringLiteral]) : startsQuoted s = false := by
  have hrules : rules previous = (rules previous).take 4 ++ (rules previous).drop 4 := rfl
  rw [next?, hrules, List.findSome?_append, Option.or_eq_some_iff] at h
  rcases h with h | ⟨hnone, -⟩
  · obtain ⟨rule, hmem, hrule⟩ := List.exists_of_findSome?_eq_some h
    obtain ⟨split, -, heq⟩ := Option.map_eq_some_iff.1 hrule
    have hkinds : ∀ rule ∈ (rules previous).take 4,
        rule.1 ∈ [.lineComment, .blockComment, .stringLiteral] := by simp [rules]
    cases heq
    exact absurd (hkinds rule hmem) hk
  · rw [startsQuoted, List.any_eq_false]
    intro scanner hmem
    have hopeners : openers = ((rules previous).take 4).map (·.2) := rfl
    rw [hopeners] at hmem
    obtain ⟨rule, hrule, rfl⟩ := List.mem_map.1 hmem
    have hreject := Option.map_eq_none_iff.1 (List.findSome?_eq_none_iff.1 hnone rule hrule)
    simp [hreject]

theorem scan_of_stringLiteral (h : next? previous s = some (t, rest))
    (hk : t.kind = .stringLiteral) :
    string? s = some (t.text, rest) ∨ dollarString? s = some (t.text, rest) := by
  obtain ⟨rule, hmem, hkind, hsplit⟩ := exists_rule_of_next? h
  have hrules : ∀ rule ∈ rules previous, rule.1 = .stringLiteral →
      rule.2 = string? ∨ rule.2 = dollarString? := by simp [rules]
  rcases hrules rule hmem (hkind.trans hk) with heq | heq
  · exact .inl (by rw [← heq, hsplit])
  · exact .inr (by rw [← heq, hsplit])

theorem scan_of_quotedName (h : next? previous s = some (t, rest)) (hk : t.kind = .quotedName) :
    (∃ mark ∈ ['"', '\x60'], quotedName? mark s = some (t.text, rest)) ∨
      bracketName? previous s = some (t.text, rest) := by
  obtain ⟨rule, hmem, hkind, hsplit⟩ := exists_rule_of_next? h
  have hrules : ∀ rule ∈ rules previous, rule.1 = .quotedName →
      (∃ mark ∈ ['"', '\x60'], rule.2 = quotedName? mark) ∨ rule.2 = bracketName? previous := by
    simp [rules]
  rcases hrules rule hmem (hkind.trans hk) with ⟨mark, hmark, heq⟩ | heq
  · exact .inl ⟨mark, hmark, by rw [← heq, hsplit]⟩
  · exact .inr (by rw [← heq, hsplit])

theorem scan_of_word (h : next? previous s = some (t, rest)) (hk : t.kind = .word) :
    (word? s = some (t.text, rest) ∧ t.text.head?.any Char.isDigit = false) ∨
      (number? s = some (t.text, rest) ∧ t.text.head?.any Char.isDigit = true) := by
  obtain ⟨rule, hmem, hkind, hsplit⟩ := exists_rule_of_next? h
  have hrules : ∀ rule ∈ rules previous, rule.1 = .word → rule.2 = word? ∨ rule.2 = number? := by
    simp [rules]
  rcases hrules rule hmem (hkind.trans hk) with heq | heq
  · rw [heq] at hsplit
    exact .inl ⟨hsplit, head?_of_word? hsplit⟩
  · rw [heq] at hsplit
    exact .inr ⟨hsplit, head?_of_number? hsplit⟩

/-- A token has taken up all that it could. -/
theorem takesUp_of_next? (h : next? previous s = some (t, rest)) (ht : t.isSignificant = true) :
    t.takesUp rest = false := by
  have hplain : t.kind ∉ [.lineComment, .blockComment, .stringLiteral] →
      startsQuoted (t.text ++ rest) = false := by
    rw [(text_append_of_next? h).1]
    exact startsQuoted_of_next? h
  rw [Token.takesUp]
  cases hk : t.kind with
  | lineComment => simp [Token.isSignificant, Token.isComment, hk] at ht
  | blockComment => simp [Token.isSignificant, Token.isComment, hk] at ht
  | space => simp [Token.isSignificant, hk] at ht
  | stringLiteral =>
    rcases scan_of_stringLiteral h hk with hscan | hscan
    · simp [rest_of_string? hscan]
    · simp [head?_of_dollarString? hscan]
  | quotedName =>
    rcases scan_of_quotedName h hk with ⟨mark, -, hscan⟩ | hscan
    · refine any_head?_eq_false_iff.2 fun c hc => ?_
      have hne : mark ≠ c := fun heq => rest_of_quotedName? hscan (heq ▸ hc)
      simp [head?_of_quotedName? hscan, hne]
    · refine any_head?_eq_false_iff.2 fun c _ => ?_
      rw [head?_of_bracketName? hscan, Bool.and_eq_false_iff, bne_eq_false_iff_eq,
        beq_eq_false_iff_ne]
      exact (eq_or_ne c '[').imp_right fun hne heq => hne (Option.some.inj heq).symm
  | word =>
    have hopens := hplain (by simp [hk])
    rcases scan_of_word h hk with ⟨hscan, hdigit⟩ | ⟨hscan, hdigit⟩
    · simp [hopens, hdigit, any_head?_eq_false_iff.2 (rest_of_word? hscan)]
    · simp [hopens, hdigit, rest_of_number? hscan]
  | _ => exact hplain (by simp [hk])

theorem openers_of_head {c : Char} (hcomment : c ∉ ['-', '/'])
    (hstring : string? (c :: s) ≠ none ∨ c ≠ '\'' ∧ isStringMarker c = false)
    (hdollar : dollarString? (c :: s) ≠ none ∨ c ≠ '$') (s' : List Char) :
    ∀ scanner ∈ openers, scanner (c :: s) = none → scanner (c :: s') = none := by
  simp only [List.mem_cons, List.not_mem_nil, or_false, not_or] at hcomment
  simp only [openers, List.forall_mem_cons]
  refine ⟨fun _ => ?_, fun _ => ?_, fun h => ?_, fun h => ?_, by simp⟩
  · simp [lineComment?, hcomment.1]
  · simp [blockComment?, hcomment.2]
  · obtain ⟨hquote, hmarker⟩ := hstring.resolve_left (absurd h)
    exact string?_of_head hquote hmarker s'
  · simp [dollarString?, hdollar.resolve_left (absurd h)]

theorem openers_of_quoted (h : next? previous (t.text ++ rest) = some (t, rest))
    (hk : t.kind = .stringLiteral ∨ t.kind = .quotedName) (rest' : List Char) :
    ∀ scanner ∈ openers, scanner (t.text ++ rest) = none → scanner (t.text ++ rest') = none := by
  obtain ⟨c, text, htext⟩ := List.exists_cons_of_ne_nil (text_append_of_next? h).2
  have hhead : t.text.head? = some c := by rw [htext]; rfl
  have happend (s : List Char) : t.text ++ s = c :: (text ++ s) := by rw [htext, List.cons_append]
  rw [happend, happend]
  rcases hk with hk | hk
  · rcases scan_of_stringLiteral h hk with hscan | hscan
    · have hc := head?_of_string? hscan c hhead
      have hne (d : Char) (hd : d ≠ '\'') (hd' : isStringMarker d = false) : c ≠ d := by
        rintro rfl
        rcases hc with rfl | hmarker
        · exact hd rfl
        · simp [hmarker] at hd'
      rw [happend] at hscan
      refine openers_of_head ?_ (.inl (by simp [hscan])) (.inr (hne '$' ?_ ?_)) _
      · simp [hne '-' (by decide) (by decide), hne '/' (by decide) (by decide)]
      · decide
      · decide
    · obtain rfl : '$' = c := Option.some.inj ((head?_of_dollarString? hscan).symm.trans hhead)
      rw [happend] at hscan
      exact openers_of_head (by decide) (.inr (by decide)) (.inl (by simp [hscan])) _
  · have hc : c ∈ ['"', '\x60', '['] := by
      rcases scan_of_quotedName h hk with ⟨mark, hmark, hscan⟩ | hscan
      · obtain rfl : mark = c := Option.some.inj ((head?_of_quotedName? hscan).symm.trans hhead)
        exact List.mem_append_left ['['] hmark
      · obtain rfl : '[' = c := Option.some.inj ((head?_of_bracketName? hscan).symm.trans hhead)
        simp
    have hmarks : ∀ d ∈ ['"', '\x60', '['], d ∉ ['-', '/'] ∧ (d ≠ '\'' ∧
        isStringMarker d = false) ∧ d ≠ '$' := by simp [isStringMarker]
    obtain ⟨hcomment, hstring, hdollar⟩ := hmarks c hc
    exact openers_of_head hcomment (.inr hstring) (.inr hdollar) _

theorem next?_of_stringLiteral (h : next? previous (t.text ++ rest) = some (t, rest))
    (hk : t.kind = .stringLiteral) (hnil : rest = [] → rest' = [])
    (hs : t.text.head? = some '$' ∨ rest'.head? ≠ some '\'') :
    next? previous (t.text ++ rest') = some (t, rest') := by
  have hstring (hscan : string? (t.text ++ rest) = some (t.text, rest)) :
      string? (t.text ++ rest') = some (t.text, rest') := by
    refine string?_of_stops hnil (fun d hd => .inr ?_) hscan
    rintro rfl
    rcases hs with hdollar | hquote
    · exact absurd (head?_of_string? hscan '$' hdollar) (by decide)
    · exact hquote hd
  have hdollar : dollarString? (t.text ++ rest) = some (t.text, rest) →
      dollarString? (t.text ++ rest') = some (t.text, rest') :=
    dollarString?_of_nil hnil
  have haccepts := And.intro hstring hdollar
  exact next?_of_openers h (openers_of_quoted h (.inl hk) rest')
    (by simpa [rules, hk] using haccepts)

theorem next?_of_quotedName (h : next? previous (t.text ++ rest) = some (t, rest))
    (hk : t.kind = .quotedName) (hnil : rest = [] → rest' = [])
    (hs : ∀ c ∈ rest'.head?, c = '[' ∨ t.text.head? ≠ some c) :
    next? previous (t.text ++ rest') = some (t, rest') := by
  have hquoted (mark : Char) (hne : mark ≠ '[')
      (hscan : quotedName? mark (t.text ++ rest) = some (t.text, rest)) :
      quotedName? mark (t.text ++ rest') = some (t.text, rest') := by
    refine quotedName?_of_stops hnil (fun d hd => .inr ?_) hscan
    rintro rfl
    exact (hs d hd).elim hne fun hother => hother (head?_of_quotedName? hscan)
  have hbracket : bracketName? previous (t.text ++ rest) = some (t.text, rest) →
      bracketName? previous (t.text ++ rest') = some (t.text, rest') :=
    bracketName?_of_nil hnil
  have haccepts := And.intro (hquoted '"' (by decide))
    (And.intro (hquoted '\x60' (by decide)) hbracket)
  exact next?_of_openers h (openers_of_quoted h (.inr hk) rest')
    (by simpa [rules, hk] using haccepts)

theorem reject_of_startsQuoted (hs : startsQuoted (a ++ rest') = false) :
    ∀ scanner ∈ openers, scanner (a ++ rest) = none → scanner (a ++ rest') = none := by
  rw [startsQuoted, List.any_eq_false] at hs
  exact fun scanner hmem _ => by simpa using hs scanner hmem

theorem next?_of_word (h : next? previous (t.text ++ rest) = some (t, rest)) (hk : t.kind = .word)
    (hopens : startsQuoted (t.text ++ rest') = false)
    (hs : (if t.text.head?.any Char.isDigit then numberTakesUp t.text rest'
      else rest'.head?.any isWordPart) = false) :
    next? previous (t.text ++ rest') = some (t, rest') := by
  have hword (hscan : word? (t.text ++ rest) = some (t.text, rest)) :
      word? (t.text ++ rest') = some (t.text, rest') := by
    rw [head?_of_word? hscan, if_neg (by simp)] at hs
    exact word?_of_stops (fun d hd => .inr (any_head?_eq_false_iff.1 hs d hd)) hscan
  have hnumber (hscan : number? (t.text ++ rest) = some (t.text, rest)) :
      number? (t.text ++ rest') = some (t.text, rest') := by
    rw [head?_of_number? hscan, if_pos rfl, numberTakesUp_eq_false_iff] at hs
    obtain ⟨hdigit, hpoint, hexponent⟩ := hs
    exact number?_of_stops (fun d hd => .inr (hdigit d hd))
      (fun hall d hd => .inr fun heq => hpoint hall (heq ▸ hd))
      (fun hall _ => hexponent hall) hscan
  have haccepts := And.intro hword hnumber
  exact next?_of_openers h (reject_of_startsQuoted hopens) (by simpa [rules, hk] using haccepts)

theorem next?_of_takesUp (h : next? previous (t.text ++ rest) = some (t, rest))
    (ht : t.isSignificant = true) (hnil : rest = [] → rest' = [])
    (hs : t.takesUp rest' = false) : next? previous (t.text ++ rest') = some (t, rest') := by
  rw [Token.takesUp] at hs
  cases hk : t.kind with
  | lineComment => simp [Token.isSignificant, Token.isComment, hk] at ht
  | blockComment => simp [Token.isSignificant, Token.isComment, hk] at ht
  | space => simp [Token.isSignificant, hk] at ht
  | stringLiteral =>
    rw [hk, Bool.and_eq_false_iff, bne_eq_false_iff_eq, beq_eq_false_iff_ne] at hs
    exact next?_of_stringLiteral h hk hnil hs
  | quotedName =>
    rw [hk] at hs
    refine next?_of_quotedName h hk hnil fun c hc => ?_
    have hother := any_head?_eq_false_iff.1 hs c hc
    rwa [Bool.and_eq_false_iff, bne_eq_false_iff_eq, beq_eq_false_iff_ne] at hother
  | word =>
    rw [hk] at hs
    obtain ⟨hopens, hstop⟩ := Bool.or_eq_false_iff.1 hs
    exact next?_of_word h hk hopens hstop
  | other =>
    rw [hk] at hs
    refine next?_of_openers h (reject_of_startsQuoted hs) ?_
    simpa [rules, hk] using anyChar?_of_accepts rest'
  | placeholder | terminator | separator =>
    rw [hk] at hs
    refine next?_of_openers h (reject_of_startsQuoted hs) ?_
    simpa [rules, hk] using single?_of_accepts rest'

/-- A significant token that is read in front of one text is read in front of another exactly if it
takes up nothing of that. -/
theorem next?_iff_takesUp (h : next? previous (t.text ++ rest) = some (t, rest))
    (ht : t.isSignificant = true) (hnil : rest = [] → rest' = []) :
    next? previous (t.text ++ rest') = some (t, rest') ↔ t.takesUp rest' = false :=
  ⟨fun h' => takesUp_of_next? h' ht, next?_of_takesUp h ht hnil⟩

theorem startsQuoted_of_append {more : List Char} (h : startsQuoted (s ++ more) = false) :
    startsQuoted s = false := by
  rw [startsQuoted, List.any_eq_false] at h ⊢
  intro scanner hmem
  rcases eq_or_ne s [] with rfl | hne
  · revert scanner
    simp [openers, lineComment?, blockComment?, string?, dollarString?]
  · have hagrees : Agrees more [] := .stop (by simp)
    have hreject := openers_reject scanner hmem hne hagrees (fun _ hdash => by cases hdash)
      (by simpa using h scanner hmem)
    rw [List.append_nil] at hreject
    simp [hreject]

theorem any_head?_of_append {p : Char → Bool} {more : List Char}
    (h : (s ++ more).head?.any p = false) : s.head?.any p = false := by
  cases s with
  | nil => rfl
  | cons c s => exact h

theorem head?_ne_of_append {c : Char} {more : List Char} (h : (s ++ more).head? ≠ some c) :
    s.head? ≠ some c := by
  cases s with
  | nil => simp
  | cons d s => exact h

theorem numberTakesUp_of_append {more : List Char} (h : numberTakesUp a (s ++ more) = false) :
    numberTakesUp a s = false := by
  rw [numberTakesUp_eq_false_iff] at h ⊢
  obtain ⟨hdigit, hpoint, hexponent⟩ := h
  have hagrees : Agrees (s ++ more) (s ++ []) := Agrees.append (.stop (by simp)) s
  rw [List.append_nil] at hagrees
  refine ⟨fun c hc => hdigit c ?_, fun hall => head?_ne_of_append (hpoint hall),
    fun hall => splitExponent_nil_of_agrees hagrees (hexponent hall)⟩
  rw [List.head?_append, Option.mem_def.1 hc, Option.some_or]
  rfl

theorem takesUp_of_append {more : List Char} (h : t.takesUp (s ++ more) = false) :
    t.takesUp s = false := by
  rw [Token.takesUp] at h ⊢
  cases hk : t.kind with
  | stringLiteral =>
    rw [hk, Bool.and_eq_false_iff, beq_eq_false_iff_ne] at h
    rw [Bool.and_eq_false_iff, beq_eq_false_iff_ne]
    exact h.imp_right head?_ne_of_append
  | quotedName =>
    rw [hk] at h
    exact any_head?_of_append h
  | word =>
    rw [hk, ← List.append_assoc, Bool.or_eq_false_iff] at h
    rw [Bool.or_eq_false_iff]
    refine ⟨startsQuoted_of_append h.1, ?_⟩
    have hstop := h.2
    split at hstop
    · next hnumber =>
      rw [if_pos hnumber]
      exact numberTakesUp_of_append hstop
    · next hword =>
      rw [if_neg hword]
      exact any_head?_of_append hstop
  | _ =>
    rw [hk, ← List.append_assoc] at h
    exact startsQuoted_of_append h

end Lexer

end SqlScript
