import SqlScript.Proofs.Excerpts
import SqlScript.Proofs.Outlines
import Mathlib.Data.List.DropRight

namespace SqlScript

namespace Scan

/-- Only the first character of a lexeme may be white space. -/
def Solid (scanner : Scanner) : Prop :=
  ∀ ⦃s a rest⦄, scanner s = some (a, rest) → ∀ c ∈ a.tail, Text.isSpace c = false

/-- No character of a lexeme is one that lexemes do not go on with. -/
def Unbroken (scanner : Scanner) : Prop :=
  ∀ ⦃s a rest⦄, scanner s = some (a, rest) → ∀ c ∈ a, isBreak c = false

/-- White space at the end of a text that is one lexeme may go. -/
def Trims (scanner : Scanner) : Prop :=
  ∀ ⦃a spaces⦄, a ≠ [] → (∀ c ∈ spaces, Text.isSpace c = true) →
    scanner (a ++ spaces) = some (a ++ spaces, []) → scanner a = some (a, [])

variable {scanner : Scanner} {a s spaces rest : List Char}

theorem not_isSpace_of_not_isBreak {c : Char} (h : isBreak c = false) : Text.isSpace c = false := by
  by_contra hspace
  have hbreak := Lexer.isBreak_of_isSpace (by simpa using hspace)
  simp [h] at hbreak

theorem Unbroken.solid (h : Unbroken scanner) : Solid scanner :=
  fun _ _ _ hs c hc => not_isSpace_of_not_isBreak (h hs c (List.mem_of_mem_tail hc))

theorem Solid.eq_nil (h : Solid scanner) (ha : a ≠ [])
    (hspaces : ∀ c ∈ spaces, Text.isSpace c = true)
    (hs : scanner s = some (a ++ spaces, rest)) : spaces = [] := by
  obtain ⟨c, a, rfl⟩ := List.exists_cons_of_ne_nil ha
  cases spaces with
  | nil => rfl
  | cons d spaces =>
    have hd := h hs d (by simp)
    simp [hspaces d (by simp)] at hd

theorem Solid.trims (h : Solid scanner) : Trims scanner := by
  intro a spaces ha hspaces hs
  obtain rfl := h.eq_nil ha hspaces hs
  simpa using hs

theorem solid_single? (mark : Char) : Solid (single? mark) := by
  intro s a rest h
  unfold single? at h
  split at h
  · cases h
  · split at h
    · cases h
      simp
    · cases h

theorem solid_anyChar? : Solid anyChar? := by
  intro s a rest h
  unfold anyChar? at h
  split at h
  · cases h
  · cases h
    simp

theorem unbroken_word? : Unbroken word? := by
  intro s a rest h c hc
  unfold word? at h
  split at h
  · cases h
  · split at h
    · next hstart =>
      cases h
      rcases List.mem_cons.1 hc with rfl | hc
      · exact not_isBreak_of_isWordPart (isWordPart_of_isWordStart hstart)
      · exact not_isBreak_of_isWordPart (List.mem_takeWhile_imp hc)
    · cases h

theorem not_isBreak_of_mem_digits {c : Char} (h : c ∈ (splitRun Char.isDigit s).1) :
    isBreak c = false :=
  not_isBreak_of_isDigit (List.mem_takeWhile_imp h)

theorem not_isBreak_of_mem_splitFraction {c : Char} (h : c ∈ (splitFraction s).1) :
    isBreak c = false := by
  unfold splitFraction at h
  split at h
  · rcases List.mem_cons.1 h with rfl | h
    · decide
    · exact not_isBreak_of_mem_digits h
  · cases h

theorem not_isBreak_of_mem_splitSign {c : Char} (h : c ∈ (splitSign s).1) : isBreak c = false := by
  unfold splitSign at h
  split at h
  · rw [List.mem_singleton.1 h]
    decide
  · rw [List.mem_singleton.1 h]
    decide
  · cases h

theorem not_isBreak_of_mem_splitExponent {c : Char} (h : c ∈ (splitExponent s).1) :
    isBreak c = false := by
  unfold splitExponent at h
  split at h
  · cases h
  · dsimp only at h
    split at h
    · next hexp =>
      simp only [Split.opened, List.cons_append, List.mem_cons, List.mem_append] at h
      rcases h with rfl | h | h
      · rcases hexp.1 with rfl | rfl <;> decide
      · exact not_isBreak_of_mem_splitSign h
      · exact not_isBreak_of_mem_digits h
    · cases h

theorem unbroken_number? : Unbroken number? := by
  intro s a rest h c hc
  unfold number? at h
  dsimp only at h
  split at h
  · cases h
  · cases h
    simp only [List.mem_append] at hc
    rcases hc with (h | h) | h
    · exact not_isBreak_of_mem_digits h
    · exact not_isBreak_of_mem_splitFraction h
    · exact not_isBreak_of_mem_splitExponent h

theorem splitRun_of_append {p : Char → Bool} {more : List Char}
    (h : splitRun p (a ++ more) = (a ++ more, [])) : splitRun p a = (a, []) := by
  have hall : ∀ c ∈ a ++ more, p c = true := List.takeWhile_eq_self_iff.1 (congrArg Prod.fst h)
  have ha : ∀ c ∈ a, p c = true := fun c hc => hall c (List.mem_append_left more hc)
  rw [splitRun, List.takeWhile_eq_self_iff.2 ha, List.dropWhile_eq_nil_iff.2 ha]

theorem splitThrough_of_append {stop more : List Char} (hstop : stop ≠ [])
    (h : splitThrough stop (a ++ more) = (a ++ more, [])) : splitThrough stop a = (a, []) := by
  have hwhole := splitThrough_append stop a
  cases hs : splitThrough stop a with
  | mk body rest =>
    rw [hs] at hwhole
    obtain rfl : body ++ rest = a := hwhole
    cases rest with
    | nil => rw [List.append_nil]
    | cons c rest =>
      have hrest : c :: rest = [] → c :: rest ++ more = [] := by simp
      have hmore := splitThrough_of_nil hstop hrest hs
      rw [List.append_assoc, hmore] at h
      simp at h

theorem splitQuoted_of_append {mark : Char} {escapes : Bool} {more : List Char}
    (h : splitQuoted mark escapes (a ++ more) = (a ++ more, [])) :
    splitQuoted mark escapes a = (a, []) := by
  have hwhole := splitQuoted_append mark escapes a
  cases hs : splitQuoted mark escapes a with
  | mk body rest =>
    rw [hs] at hwhole
    obtain rfl : body ++ rest = a := hwhole
    cases rest with
    | nil => rw [List.append_nil]
    | cons c rest =>
      have hrest : c :: rest = [] → c :: rest ++ more = [] := by simp
      have hhead : ∀ d ∈ (c :: rest ++ more).head?, d ∈ (c :: rest).head? ∨ d ≠ mark :=
        fun d hd => .inl hd
      have hmore := splitQuoted_of_stops hrest hhead hs
      rw [List.append_assoc, hmore] at h
      simp at h

theorem exists_of_opened_spaces (opener : List Char) {body : List Char}
    (hopener : opener.any Text.isSpace = false)
    (hspaces : ∀ c ∈ spaces, Text.isSpace c = true) (h : a ++ spaces = opener ++ body) :
    ∃ a', a = opener ++ a' ∧ body = a' ++ spaces := by
  rcases List.append_eq_append_iff.1 h with ⟨more, rfl, hbody⟩ | ⟨more, ha, hbody⟩
  · cases more with
    | nil => exact ⟨[], by simp, by simpa using hbody.symm⟩
    | cons c more =>
      have hc := List.any_eq_false.1 hopener c (by simp)
      simp [hspaces c (by simp [hbody])] at hc
  · exact ⟨more, ha, hbody⟩

theorem trims_lineComment? : Trims lineComment? := by
  intro a spaces _ hspaces hs
  unfold lineComment? at hs
  split at hs
  · next s heq =>
    obtain ⟨a, rfl, rfl⟩ := exists_of_opened_spaces ['-', '-'] (by decide) hspaces heq
    obtain ⟨b, hb, hrun⟩ := exists_of_opened (Option.some.inj hs)
    obtain rfl : a ++ spaces = b := by simpa using hb
    simp [lineComment?, splitRun_of_append hrun, Split.opened]
  · cases hs

theorem trims_blockComment? : Trims blockComment? := by
  intro a spaces _ hspaces hs
  unfold blockComment? at hs
  split at hs
  · next s heq =>
    obtain ⟨a, rfl, rfl⟩ := exists_of_opened_spaces ['/', '*'] (by decide) hspaces heq
    obtain ⟨b, hb, hthrough⟩ := exists_of_opened (Option.some.inj hs)
    obtain rfl : a ++ spaces = b := by simpa using hb
    simp [blockComment?, splitThrough_of_append (by simp) hthrough, Split.opened]
  · cases hs

theorem not_isSpace_of_isStringMarker {c : Char} (h : isStringMarker c = true) :
    Text.isSpace c = false := by
  simp only [isStringMarker, List.contains_eq_mem, List.mem_cons, List.not_mem_nil, or_false,
    decide_eq_true_eq] at h
  rcases h with rfl | rfl | rfl | rfl | rfl | rfl | rfl | rfl <;> decide

theorem trims_string? : Trims string? := by
  intro a spaces _ hspaces hs
  unfold string? at hs
  split at hs
  · next s heq =>
    obtain ⟨a, rfl, rfl⟩ := exists_of_opened_spaces ['\''] (by decide) hspaces heq
    obtain ⟨b, hb, hquoted⟩ := exists_of_opened (Option.some.inj hs)
    obtain rfl : a ++ spaces = b := by simpa using hb
    simp [string?, splitQuoted_of_append hquoted, Split.opened]
  · next c s hne heq =>
    split at hs
    · next hc =>
      have hopener : [c, '\''].any Text.isSpace = false := by
        rw [List.any_cons, not_isSpace_of_isStringMarker hc]
        decide
      obtain ⟨a, rfl, rfl⟩ := exists_of_opened_spaces [c, '\''] hopener hspaces heq
      obtain ⟨b, hb, hquoted⟩ := exists_of_opened (Option.some.inj hs)
      obtain rfl : a ++ spaces = b := by simpa using hb
      rw [List.cons_append, List.cons_append, List.nil_append, string?.eq_def]
      split
      · next heq' =>
        cases heq'
        exact (hne rfl).elim
      · next heq' =>
        cases heq'
        rw [if_pos hc, splitQuoted_of_append hquoted]
        rfl
      · next hnot => exact absurd rfl (hnot c _)
    · cases hs
  · cases hs

theorem trims_dollarString? : Trims dollarString? := by
  intro a spaces _ hspaces hs
  unfold dollarString? at hs
  split at hs
  · next s heq =>
    dsimp only at hs
    split at hs
    · cases hs
    · next hdigit =>
      split at hs
      · next body hbody =>
        have hsplit := List.takeWhile_append_dropWhile (p := isTagChar) (l := s)
        have htag : ∀ c ∈ s.takeWhile isTagChar, isTagChar c = true :=
          fun c hc => List.mem_takeWhile_imp hc
        rw [hbody] at hsplit
        generalize s.takeWhile isTagChar = tag at *
        subst hsplit
        have hnone : tag.any Text.isSpace = false := List.any_eq_false.2 fun c hc => by
          have hpart := isWordPart_of_isTagChar (htag c hc)
          simp [not_isSpace_of_not_isBreak (not_isBreak_of_isWordPart hpart)]
        have hopener : ('$' :: (tag ++ ['$'])).any Text.isSpace = false := by
          rw [List.any_cons, List.any_append, hnone]
          decide
        obtain ⟨a, rfl, rfl⟩ := exists_of_opened_spaces ('$' :: (tag ++ ['$'])) hopener
          hspaces (show a ++ spaces = '$' :: (tag ++ ['$']) ++ body by simpa using heq)
        obtain ⟨b, hb, hthrough⟩ := exists_of_opened (Option.some.inj hs)
        obtain rfl : a ++ spaces = b := by simpa using hb
        have hi := splitThrough_of_append (by simp) hthrough
        obtain ⟨htake, hdrop⟩ := takeWhile_append_cons a (d := '$') htag (by decide)
        simp only [List.cons_append, List.append_assoc, List.nil_append] at hi ⊢
        simp only [dollarString?, htake, hdrop, if_neg hdigit, hi, Split.opened, List.cons_append,
          List.append_assoc, List.nil_append]
      · cases hs
  · cases hs

theorem trims_quotedName? {mark : Char} (hmark : Text.isSpace mark = false) :
    Trims (quotedName? mark) := by
  intro a spaces _ hspaces hs
  unfold quotedName? at hs
  split at hs
  · cases hs
  · next c s heq =>
    split at hs
    · next hc =>
      subst hc
      obtain ⟨a, rfl, rfl⟩ := exists_of_opened_spaces [c] (by simpa) hspaces heq
      obtain ⟨b, hb, hquoted⟩ := exists_of_opened (Option.some.inj hs)
      obtain rfl : a ++ spaces = b := by simpa using hb
      simp [quotedName?, splitQuoted_of_append hquoted, Split.opened]
    · cases hs

theorem trims_bracketName? (previous : Option Char) : Trims (bracketName? previous) := by
  intro a spaces _ hspaces hs
  unfold bracketName? at hs
  split at hs
  · next s heq =>
    split at hs
    · cases hs
    · next hprevious =>
      obtain ⟨a, rfl, rfl⟩ := exists_of_opened_spaces ['['] (by decide) hspaces heq
      obtain ⟨b, hb, hthrough⟩ := exists_of_opened (Option.some.inj hs)
      obtain rfl : a ++ spaces = b := by simpa using hb
      simp [bracketName?, hprevious, splitThrough_of_append (by simp) hthrough, Split.opened]
  · cases hs

theorem trims_space? : Trims space? := by
  intro a spaces ha _ hs
  obtain ⟨c, a, rfl⟩ := List.exists_cons_of_ne_nil ha
  rw [List.cons_append, space?] at hs
  split at hs
  · next hc =>
    obtain ⟨b, hb, hrun⟩ := exists_of_opened (Option.some.inj hs)
    obtain rfl : a ++ spaces = b := by simpa using hb
    simp [space?, hc, splitRun_of_append hrun, Split.opened]
  · cases hs

end Scan

namespace Lexer

open Scan

variable {previous : Option Char} {s a b spaces rest : List Char} {k : Kind} {ts : List Token}

theorem rules_trim (previous : Option Char) : ∀ rule ∈ rules previous, Trims rule.2 := by
  simp only [rules, List.forall_mem_cons]
  exact ⟨trims_lineComment?, trims_blockComment?, trims_string?, trims_dollarString?,
    trims_quotedName? (by decide), trims_quotedName? (by decide), trims_bracketName? previous,
    (solid_single? _).trims, (solid_single? _).trims, (solid_single? _).trims,
    unbroken_word?.solid.trims, unbroken_number?.solid.trims, trims_space?, solid_anyChar?.trims,
    by simp⟩

/-- The kinds of the tokens that may end with white space. -/
def openKinds : List Kind :=
  [.lineComment, .blockComment, .stringLiteral, .quotedName, .space]

theorem rules_solid (previous : Option Char) :
    ∀ rule ∈ rules previous, rule.1 ∉ openKinds → Solid rule.2 := by
  simp only [rules, List.forall_mem_cons]
  exact ⟨fun h => absurd (by decide) h, fun h => absurd (by decide) h,
    fun h => absurd (by decide) h, fun h => absurd (by decide) h, fun h => absurd (by decide) h,
    fun h => absurd (by decide) h, fun h => absurd (by decide) h, fun _ => solid_single? _,
    fun _ => solid_single? _, fun _ => solid_single? _, fun _ => unbroken_word?.solid,
    fun _ => unbroken_number?.solid, fun h => absurd (by decide) h, fun _ => solid_anyChar?,
    by simp⟩

theorem next?_of_spaces (ha : a ≠ []) (hspaces : ∀ c ∈ spaces, Text.isSpace c = true)
    (h : next? previous (a ++ spaces) = some (⟨k, a ++ spaces⟩, [])) :
    next? previous a = some (⟨k, a⟩, []) := by
  obtain ⟨earlier, rule, later, hrules, hkind, hsplit, hearlier⟩ := next?_eq_some_iff.1 h
  have hmem : ∀ r ∈ earlier ++ rule :: later, r ∈ rules previous := fun r hr => hrules ▸ hr
  refine next?_eq_some_iff.2 ⟨earlier, rule, later, hrules, hkind, ?_, fun r hr => ?_⟩
  · exact rules_trim previous rule (hmem rule (by simp)) ha hspaces hsplit
  · have hagrees : Agrees spaces [] := .stop (by simp)
    have hdash : KeepsDash a spaces [] := fun _ h => by cases h
    have hnone := rules_reject previous r (hmem r (by simp [hr])) ha hagrees hdash (hearlier r hr)
    rwa [List.append_nil] at hnone

theorem eq_nil_of_next? (ha : a ≠ []) (hspaces : ∀ c ∈ spaces, Text.isSpace c = true)
    (h : next? previous s = some (⟨k, a ++ spaces⟩, rest)) (hk : k ∉ openKinds) : spaces = [] := by
  obtain ⟨rule, hmem, hkind, hsplit⟩ := exists_rule_of_next? h
  exact (rules_solid previous rule hmem (hkind ▸ hk)).eq_nil ha hspaces hsplit

theorem Reads.kind_of_spaces (h : Reads previous ts rest)
    (hspaces : ∀ c ∈ textOf ts, Text.isSpace c = true) : ∀ t ∈ ts, t.kind = .space := by
  induction h with
  | nil => simp
  | @cons previous t ts rest ht _ ih =>
    rw [textOf_cons] at hspaces
    refine List.forall_mem_cons.2 ⟨?_, ih fun c hc => hspaces c (List.mem_append_right _ hc)⟩
    obtain ⟨c, text, htext⟩ := List.exists_cons_of_ne_nil (text_append_of_next? ht).2
    have hc : Text.isSpace c = true := hspaces c (by simp [htext])
    rw [htext, List.cons_append, next?_of_isSpace hc, Option.some.injEq, Prod.mk.injEq] at ht
    rw [← ht.1]

end Lexer

open Lexer Scan

/-- The first tokens are the second ones without the white space at the end, some of which may have
been part of a token. -/
inductive CutShort : List Token → List Token → Prop
  | mk {xs k a spaces layout} (hspaces : ∀ c ∈ spaces, Text.isSpace c = true)
      (hlayout : ∀ u ∈ layout, u.isSignificant = false)
      (hsolid : k ∉ openKinds → spaces = []) :
      CutShort (xs ++ [⟨k, a⟩]) (xs ++ ⟨k, a ++ spaces⟩ :: layout)

variable {s b spaces : List Char} {previous : Option Char} {t : Token} {ts us : List Token}

theorem CutShort.cons (h : CutShort us ts) (t : Token) : CutShort (t :: us) (t :: ts) := by
  obtain ⟨hspaces, hlayout, hsolid⟩ := h
  rw [← List.cons_append, ← List.cons_append]
  exact .mk hspaces hlayout hsolid

theorem CutShort.map_kind (h : CutShort us ts) :
    (significant us).map (·.kind) = (significant ts).map (·.kind) := by
  obtain @⟨xs, k, a, spaces, layout, -, hlayout, -⟩ := h
  have hsame : Token.isSignificant ⟨k, a ++ spaces⟩ = Token.isSignificant ⟨k, a⟩ := rfl
  rw [significant_append, significant_append, significant_cons, significant_cons,
    significant_eq_nil hlayout, hsame, List.map_append, List.map_append]
  split <;> rfl

theorem CutShort.outline_cases (h : CutShort us ts) :
    outline us = outline ts ∨ ∃ xs t t' gap, us = xs ++ [t'] ∧ ts = xs ++ t :: gap ∧
      (∀ v ∈ gap, v.isSignificant = false) ∧ t'.kind = t.kind ∧
      (t.kind = .stringLiteral ∨ t.kind = .quotedName) := by
  obtain @⟨xs, k, a, spaces, layout, -, hlayout, hsolid⟩ := h
  by_cases hliteral : k = .stringLiteral ∨ k = .quotedName
  · exact .inr ⟨xs, ⟨k, a ++ spaces⟩, ⟨k, a⟩, layout, rfl, rfl, hlayout, rfl, hliteral⟩
  left
  by_cases hk : k ∈ openKinds
  · have hlast (b : List Char) : Token.isSignificant ⟨k, b⟩ = false := by
      simp only [openKinds, List.mem_cons, List.not_mem_nil, or_false] at hk
      rcases hk with rfl | rfl | rfl | rfl | rfl <;> simp_all [Token.isSignificant, Token.isComment]
    rw [outline, outline, outlineFrom_append_layout (by simp [hlast]),
      outlineFrom_append_layout (List.forall_mem_cons.2 ⟨hlast _, hlayout⟩)]
  · have hsame := outlineFrom_append_layout hlayout false (xs ++ [⟨k, a⟩])
    rw [List.append_assoc, List.singleton_append] at hsame
    rw [hsolid hk, List.append_nil, outline, outline, hsame]

/-- Where white space is cut off the end of a text, the token that the cut meets ends there. -/
theorem cutShort_of_reads (hreads : Reads previous ts []) (htext : textOf ts = b ++ spaces)
    (hb : b ≠ []) (hspaces : ∀ c ∈ spaces, Text.isSpace c = true) :
    CutShort (tokensAfter previous b) ts := by
  generalize hrest : ([] : List Char) = rest at hreads
  induction hreads generalizing b with
  | nil => simp [textOf, hb] at htext
  | @cons previous t ts rest ht hts ih =>
    subst hrest
    rw [List.append_nil] at ht
    rw [textOf_cons] at htext
    have hcut : (∃ c, c ≠ [] ∧ b = t.text ++ c ∧ textOf ts = c ++ spaces) ∨
        ∃ more, t.text = b ++ more ∧ spaces = more ++ textOf ts := by
      rcases List.append_eq_append_iff.1 htext with ⟨c, hfirst, hrest⟩ | hlast
      · by_cases hc : c = []
        · exact .inr ⟨[], by simp [hfirst, hc], by simp [hrest, hc]⟩
        · exact .inl ⟨c, hc, hfirst, hrest⟩
      · exact .inr hlast
    rcases hcut with ⟨c, hc, rfl, hmore⟩ | ⟨more, hword, rfl⟩
    · have hshort : c <+: textOf ts := ⟨spaces, hmore.symm⟩
      have hread := next?_of_head ht (follows_of_isPrefix hshort) (mem_head?_of_isPrefix hshort)
      rw [tokensAfter_of_next? hread]
      exact (ih hmore hc rfl).cons t
    · obtain ⟨k, text⟩ := t
      obtain rfl : text = b ++ more := hword
      obtain ⟨hmore, hts'⟩ := List.forall_mem_append.1 hspaces
      have hend := next?_of_head ht (follows_of_isPrefix List.nil_prefix) (by simp)
      have hread := next?_of_spaces hb hmore (by simpa using hend)
      rw [tokensAfter_of_next? hread, tokensAfter_nil]
      have hlayout : ∀ u ∈ ts, u.isSignificant = false := fun u hu => by
        simp [Token.isSignificant, hts.kind_of_spaces hts' u hu]
      rw [← List.nil_append [_], ← List.nil_append (_ :: ts)]
      exact .mk hmore hlayout (eq_nil_of_next? hb hmore ht)

theorem tokens_dropWhile (s : List Char) :
    ∃ gap, tokens s = gap ++ tokens (s.dropWhile Text.isSpace) ∧
      ∀ u ∈ gap, u.isSignificant = false := by
  cases s with
  | nil => exact ⟨[], rfl, by simp⟩
  | cons c s =>
    by_cases hc : Text.isSpace c = true
    · have hspaces : ∀ d ∈ c :: s.takeWhile Text.isSpace, Text.isSpace d = true :=
        List.forall_mem_cons.2 ⟨hc, fun d hd => List.mem_takeWhile_imp hd⟩
      refine ⟨[⟨.space, c :: s.takeWhile Text.isSpace⟩], ?_, by simp [Token.isSignificant]⟩
      have hsame : (c :: s.takeWhile Text.isSpace).getLast?.any takesSubscript =
          (none : Option Char).any takesSubscript := any_takesSubscript_getLast? hspaces
      rw [tokens, tokensAfter_of_next? (next?_of_isSpace hc s), List.dropWhile_cons_of_pos hc,
        tokensAfter_congr_previous fun _ => hsame]
      rfl
    · exact ⟨[], by rw [List.dropWhile_cons_of_neg hc, List.nil_append], by simp⟩

theorem exists_trim_append (s : List Char) :
    ∃ spaces, s.dropWhile Text.isSpace = Text.trim s ++ spaces ∧
      ∀ c ∈ spaces, Text.isSpace c = true := by
  have hsplit := List.takeWhile_append_dropWhile (p := Text.isSpace)
    (l := (s.dropWhile Text.isSpace).reverse)
  refine ⟨((s.dropWhile Text.isSpace).reverse.takeWhile Text.isSpace).reverse, ?_, fun c hc => ?_⟩
  · rw [Text.trim, ← List.reverse_append, hsplit, List.reverse_reverse]
  · exact List.mem_takeWhile_imp (List.mem_reverse.1 hc)

/-- The tokens of a text without the white space around it are its own, but for layout in front of
them and behind them and for white space at the end of the last one. -/
theorem tokens_trim (s : List Char) :
    (∀ u ∈ tokens s, u.isSignificant = false) ∧ tokens (Text.trim s) = [] ∨
      ∃ gap ts, tokens s = gap ++ ts ∧ (∀ u ∈ gap, u.isSignificant = false) ∧
        CutShort (tokens (Text.trim s)) ts := by
  obtain ⟨gap, hgap, hlayout⟩ := tokens_dropWhile s
  obtain ⟨spaces, hspaces, hblank⟩ := exists_trim_append s
  have hreads := reads_tokensAfter none (s.dropWhile Text.isSpace)
  have htext := textOf_tokensAfter none (s.dropWhile Text.isSpace)
  by_cases hnil : Text.trim s = []
  · left
    rw [hnil, List.nil_append] at hspaces
    refine ⟨?_, by rw [hnil, tokens, tokensAfter_nil]⟩
    rw [hgap]
    refine List.forall_mem_append.2 ⟨hlayout, fun u hu => ?_⟩
    have hkind := hreads.kind_of_spaces (by rwa [htext, hspaces]) u hu
    simp [Token.isSignificant, hkind]
  · right
    exact ⟨gap, _, hgap, hlayout, cutShort_of_reads hreads (htext.trans hspaces) hnil hblank⟩

theorem head?_of_trim (h : ∀ t ∈ (significant (tokens (Text.trim s))).head?, t.kind ≠ .separator) :
    ∀ t ∈ (significant (tokens s)).head?, t.kind ≠ .separator := by
  have hkinds : (significant (tokens (Text.trim s))).map (·.kind) =
      (significant (tokens s)).map (·.kind) := by
    rcases tokens_trim s with ⟨hlayout, hnil⟩ | ⟨gap, ts, hs, hgap, hcut⟩
    · rw [hnil, significant_eq_nil hlayout, significant_nil]
    · rw [hcut.map_kind, hs, significant_append, significant_eq_nil hgap, List.nil_append]
  intro t ht hk
  have hhead := congrArg List.head? hkinds
  rw [List.head?_map, List.head?_map, ht, Option.map_some, hk, Option.map_eq_some_iff] at hhead
  obtain ⟨u, hu, hk'⟩ := hhead
  exact h u hu hk'

theorem trim_trim (s : List Char) : Text.trim (Text.trim s) = Text.trim s := by
  obtain ⟨spaces, hspaces, -⟩ := exists_trim_append s
  have hhead : (Text.trim s).dropWhile Text.isSpace = Text.trim s := by
    cases htrim : Text.trim s with
    | nil => rfl
    | cons c rest =>
      have hnot := List.head?_dropWhile_not Text.isSpace s
      rw [hspaces, htrim, List.cons_append, List.head?_cons] at hnot
      rw [List.dropWhile_cons_of_neg (by simpa using hnot)]
  conv_lhs => rw [Text.trim, hhead, Text.trim, List.reverse_reverse, List.dropWhile_idempotent]
  rfl

end SqlScript
