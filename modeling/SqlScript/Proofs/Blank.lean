import SqlScript.Proofs.Content
import SqlScript.Proofs.Layout

namespace SqlScript

namespace Text

/-- The code points of white space. -/
def spaces : List Nat :=
  [0x09, 0x0A, 0x0B, 0x0C, 0x0D, 0x1C, 0x1D, 0x1E, 0x1F, 0x20, 0x85, 0xA0, 0x1680, 0x2000, 0x2001,
   0x2002, 0x2003, 0x2004, 0x2005, 0x2006, 0x2007, 0x2008, 0x2009, 0x200A, 0x2028, 0x2029, 0x202F,
   0x205F, 0x3000]

theorem toNat_mem_spaces {c : Char} (h : isSpace c = true) : c.toNat ∈ spaces := by
  simp only [isSpace, Bool.or_eq_true, Bool.and_eq_true, decide_eq_true_eq, beq_iff_eq] at h
  simp only [spaces, List.mem_cons, List.not_mem_nil, or_false]
  omega

theorem isWordChar_of_isSpace {c : Char} (h : isSpace c = true) : isWordChar c = false := by
  have hspaces : ∀ n ∈ spaces, isWordChar (Char.ofNat n) = false := by decide +kernel
  rw [← Char.ofNat_toNat c]
  exact hspaces _ (toNat_mem_spaces h)

end Text

theorem isContent_of_isWordChar {c : Char} (h : Text.isWordChar c = true) : isContent c = true := by
  by_contra hc
  simp only [isContent, Bool.not_eq_true, Bool.not_eq_false', Bool.or_eq_true, beq_iff_eq] at hc
  rcases hc with (hs | rfl) | rfl
  · simp [Text.isWordChar_of_isSpace hs] at h
  · revert h
    decide
  · revert h
    decide

theorem Text.isWordChar_of_isDigit {c : Char} (h : c.isDigit = true) : isWordChar c = true := by
  have hn : c.toNat < 0x80 := by
    simp only [Char.isDigit, Bool.and_eq_true, decide_eq_true_eq] at h
    have := UInt32.le_iff_toNat_le.1 h.2
    simp only [Char.toNat]
    exact Nat.lt_of_le_of_lt this (by decide)
  simp [isWordChar, hn, Char.isAlphanum, h]

namespace Scan

/-- Every lexeme that the scanner accepts has content. -/
def Carries (scanner : Scanner) : Prop :=
  ∀ s a b, scanner s = some (a, b) → content a ≠ []

theorem content_ne_nil_of_opened {t : Split} {opener a b : List Char} {c : Char}
    (h : t.opened opener = (a, b)) (hc : c ∈ opener) (hcontent : isContent c = true) :
    content a ≠ [] := by
  cases h
  exact List.ne_nil_of_mem (List.mem_filter.2 ⟨List.mem_append_left _ hc, hcontent⟩)

theorem carries_lineComment? : Carries lineComment? := by
  intro s a b h
  unfold lineComment? at h
  split at h
  · exact content_ne_nil_of_opened (Option.some.inj h) (List.mem_cons_self ..) (by decide)
  · cases h

theorem carries_blockComment? : Carries blockComment? := by
  intro s a b h
  unfold blockComment? at h
  split at h
  · exact content_ne_nil_of_opened (c := '*') (Option.some.inj h) (by simp) (by decide)
  · cases h

theorem carries_string? : Carries string? := by
  intro s a b h
  unfold string? at h
  split at h
  · exact content_ne_nil_of_opened (c := '\'') (Option.some.inj h) (by simp) (by decide)
  · split at h
    · exact content_ne_nil_of_opened (c := '\'') (Option.some.inj h) (by simp) (by decide)
    · cases h
  · cases h

theorem carries_dollarString? : Carries dollarString? := by
  intro s a b h
  unfold dollarString? at h
  split at h
  · dsimp only at h
    split at h
    · cases h
    · split at h
      · exact content_ne_nil_of_opened (c := '$') (Option.some.inj h) (by simp) (by decide)
      · cases h
  · cases h

theorem carries_quotedName? {mark : Char} (hmark : isContent mark = true) :
    Carries (quotedName? mark) := by
  intro s a b h
  unfold quotedName? at h
  split at h
  · cases h
  · split at h
    · next c _ hc => exact content_ne_nil_of_opened (Option.some.inj h) (by simp) (hc ▸ hmark)
    · cases h

theorem carries_bracketName? (previous : Option Char) : Carries (bracketName? previous) := by
  intro s a b h
  unfold bracketName? at h
  split at h
  · split at h
    · cases h
    · exact content_ne_nil_of_opened (c := '[') (Option.some.inj h) (by simp) (by decide)
  · cases h

theorem carries_single? {mark : Char} (hmark : isContent mark = true) : Carries (single? mark) := by
  intro s a b h
  unfold single? at h
  split at h
  · cases h
  · split at h
    · next c _ hc =>
      cases h
      simp [content, hc, hmark]
    · cases h

theorem carries_word? : Carries word? := by
  intro s a b h
  unfold word? at h
  split at h
  · cases h
  · split at h
    · next c _ hc =>
      rw [Text.isWordStart, Bool.and_eq_true] at hc
      exact content_ne_nil_of_opened (Option.some.inj h) (by simp) (isContent_of_isWordChar hc.1)
    · cases h

theorem carries_number? : Carries number? := by
  intro s a b h
  unfold number? at h
  dsimp only at h
  split at h
  · cases h
  · next hw =>
    obtain ⟨c, hc⟩ := List.exists_mem_of_ne_nil _ hw
    exact content_ne_nil_of_opened (Option.some.inj h) (List.mem_append_left _ hc)
      (isContent_of_isWordChar (Text.isWordChar_of_isDigit (List.mem_takeWhile_imp hc)))

end Scan

namespace Lexer

open Scan

/-- The kinds of the tokens that spell no content. -/
def blankKinds : List Kind :=
  [.space, .terminator, .separator]

theorem rules_carry (previous : Option Char) :
    ∀ rule ∈ rules previous, rule.1 ∉ .other :: blankKinds → Carries rule.2 := by
  simp only [rules, List.forall_mem_cons]
  refine ⟨fun _ => carries_lineComment?, fun _ => carries_blockComment?, fun _ => carries_string?,
    fun _ => carries_dollarString?, fun _ => carries_quotedName? (by decide),
    fun _ => carries_quotedName? (by decide), fun _ => carries_bracketName? previous,
    fun _ => carries_single? (by decide), fun h => absurd (by decide) h,
    fun h => absurd (by decide) h, fun _ => carries_word?, fun _ => carries_number?,
    fun h => absurd (by decide) h, fun h => absurd (by decide) h, by simp⟩

theorem rejects_of_next?_other {previous : Option Char} {s rest : List Char} {t : Token}
    (h : next? previous s = some (t, rest)) (hk : t.kind = .other) :
    ∃ c, t.text = [c] ∧ s = c :: rest ∧
      ∀ rule ∈ rules previous, rule.1 ≠ .other → rule.2 s = none := by
  have hrules : rules previous = (rules previous).dropLast ++ [(.other, anyChar?)] := rfl
  have hkinds : ∀ rule ∈ (rules previous).dropLast, rule.1 ≠ .other := by simp [rules]
  rw [next?, hrules, List.findSome?_append, Option.or_eq_some_iff] at h
  rcases h with h | ⟨hnone, h⟩
  · obtain ⟨rule, hmem, hrule⟩ := List.exists_of_findSome?_eq_some h
    obtain ⟨split, -, heq⟩ := Option.map_eq_some_iff.1 hrule
    cases heq
    exact absurd hk (hkinds rule hmem)
  · cases s with
    | nil => simp [anyChar?] at h
    | cons c s =>
      simp only [List.findSome?_cons, anyChar?, Option.map_some, Option.some.injEq,
        Prod.mk.injEq] at h
      obtain ⟨rfl, rfl⟩ := h
      refine ⟨c, rfl, rfl, fun rule hmem hother => ?_⟩
      rw [hrules, List.mem_append] at hmem
      rcases hmem with hmem | hmem
      · exact Option.map_eq_none_iff.1 (List.findSome?_eq_none_iff.1 hnone rule hmem)
      · simp [List.mem_singleton.1 hmem] at hother

theorem scan_of_next? {previous : Option Char} {s rest : List Char} {t : Token} (scanner : Scanner)
    (h : next? previous s = some (t, rest))
    (hk : ∀ rule ∈ rules previous, rule.1 = t.kind → rule.2 = scanner) :
    scanner s = some (t.text, rest) := by
  obtain ⟨rule, hmem, hkind, hsplit⟩ := exists_rule_of_next? h
  rwa [← hk rule hmem hkind]

theorem isSpace_of_next? {previous : Option Char} {s rest : List Char} {t : Token}
    (h : next? previous s = some (t, rest)) (hk : t.kind = .space) :
    ∀ c ∈ t.text, Text.isSpace c = true := by
  have hsplit := scan_of_next? space? h (by simp [rules, hk])
  unfold space? at hsplit
  split at hsplit
  · cases hsplit
  · next c tail =>
    split at hsplit
    · next hc =>
      simp only [Option.some.injEq, splitRun, Split.opened, Prod.mk.injEq] at hsplit
      rw [← hsplit.1]
      intro d hd
      rcases List.mem_append.1 hd with hd | hd
      · rwa [List.mem_singleton.1 hd]
      · exact List.mem_takeWhile_imp hd
    · cases hsplit

end Lexer

open Lexer in
theorem content_text_eq_nil_iff {script : List Char} {t : Token} (h : t ∈ tokens script) :
    content t.text = [] ↔ t.kind ∈ blankKinds := by
  obtain ⟨last, s, rest, hnext⟩ := exists_next?_of_mem h
  constructor
  · intro hnil
    by_contra hk
    by_cases hother : t.kind = .other
    · obtain ⟨c, htext, rfl, hrejects⟩ := rejects_of_next?_other hnext hother
      have hspace := hrejects (.space, Scan.space?) (by simp [rules]) (by simp)
      have hsemicolon := hrejects (.terminator, Scan.single? ';') (by simp [rules]) (by simp)
      have hslash := hrejects (.separator, Scan.single? '/') (by simp [rules]) (by simp)
      simp only [Scan.space?, Scan.single?, ite_eq_right_iff, reduceCtorEq, imp_false] at *
      rw [htext, content_eq_nil_iff, isBlank] at hnil
      simp_all
    · obtain ⟨rule, hmem, hkind, hsplit⟩ := exists_rule_of_next? hnext
      exact rules_carry last rule hmem (by simp [hkind, hother, hk]) _ _ _ hsplit hnil
  · intro hk
    simp only [blankKinds, List.mem_cons, List.not_mem_nil, or_false] at hk
    rcases hk with hk | hk
    · rw [content_eq_nil_iff, isBlank, List.all_eq_true]
      intro c hc
      simp [isSpace_of_next? hnext hk c hc]
    · exact marksBare_tokens script t h hk

theorem content_textOf_eq_nil_iff (tokens : List Token) :
    content (textOf tokens) = [] ↔ ∀ t ∈ tokens, content t.text = [] := by
  rw [textOf, content, List.filter_flatMap, List.flatMap_eq_nil_iff]
  rfl

theorem mem_tokens_of_mem_segment {script : List Char} {segment : Segment} {t : Token}
    (hs : segment ∈ (segments (tokens script)).1) (ht : t ∈ segment.tokens) :
    t ∈ tokens script := by
  rw [← tokens_segments (tokens script)]
  exact List.mem_flatMap.2 ⟨segment, hs, ht⟩

/-- A segment is blank if all its tokens are, but for the comments that are left out. -/
theorem isBlank_text_iff {script : List Char} {segment : Segment} (keepComments : Bool)
    (hs : segment ∈ (segments (tokens script)).1) :
    isBlank (segment.text keepComments) = true ↔
      (∀ t ∈ significant segment.tokens, t.kind = .terminator ∨ t.kind = .separator) ∧
        (keepComments = true → ∀ t ∈ segment.tokens, t.isComment = false) := by
  have hcontent (t : Token) (ht : t ∈ segment.tokens) :
      content t.text = [] ↔ t.kind = .space ∨ t.kind = .terminator ∨ t.kind = .separator := by
    rw [content_text_eq_nil_iff (mem_tokens_of_mem_segment hs ht)]
    simp [Lexer.blankKinds]
  rw [← content_eq_nil_iff, Segment.text, content_textOf_eq_nil_iff]
  simp only [significant, List.mem_filter]
  constructor
  · intro h
    constructor
    · rintro t ⟨ht, hsig⟩
      have hnil := (hcontent t ht).1 (h t ⟨ht, by simp_all [Token.isSignificant]⟩)
      simp_all [Token.isSignificant]
    · intro hkeep t ht
      have hnil := (hcontent t ht).1 (h t ⟨ht, by simp [hkeep]⟩)
      rcases hnil with hk | hk | hk <;> simp [Token.isComment, hk]
  · rintro ⟨hmarks, hcomments⟩ t ⟨ht, hkept⟩
    rw [hcontent t ht]
    by_cases hsig : t.isSignificant = true
    · exact .inr (hmarks t ⟨ht, hsig⟩)
    · cases hkeep : keepComments <;> simp_all [Token.isSignificant]

theorem Options.isBlank_trim (o : Options) (s : List Char) : isBlank (o.trim s) = isBlank s := by
  rw [Bool.eq_iff_iff, ← content_eq_nil_iff, ← content_eq_nil_iff, o.content_trim]

/-- Blank statements may be dropped behind the trimming as well as in front of it, and then none is
left, whatever the other options are. -/
theorem statements_without_blank (o : Options) (script : List Char) :
    (split { o with keepEmptyStatements := false } script).statements =
        (split { o with keepEmptyStatements := true } script).statements.filter (!·.isBlank) ∧
      (split { o with keepEmptyStatements := false } script).statements.any (·.isBlank) = false := by
  have hblank (s : Statement) : (s.mapText o.trim).isBlank = s.isBlank := o.isBlank_trim s.text
  have hall : (split { o with keepEmptyStatements := true } script).statements =
      (o.raw (segments (tokens script)).1).map (·.mapText o.trim) :=
    congrArg (List.map _) (List.filter_eq_self.2 fun _ _ => rfl)
  have hsome : (split { o with keepEmptyStatements := false } script).statements =
      ((o.raw (segments (tokens script)).1).filter (!·.isBlank)).map (·.mapText o.trim) :=
    rfl
  have hcommute : (split { o with keepEmptyStatements := false } script).statements =
      (split { o with keepEmptyStatements := true } script).statements.filter (!·.isBlank) := by
    rw [hall, hsome, List.filter_map]
    simp only [Function.comp_def, hblank]
  refine ⟨hcommute, ?_⟩
  rw [hcommute, List.any_eq_false]
  intro s hs
  simpa using (List.mem_filter.1 hs).2

theorem length_statements_split (o : Options) (script : List Char) :
    (split o script).statements.length = (segments (tokens script)).1.countP fun segment =>
      o.keepEmptyStatements || !isBlank (segment.text o.keepComments) := by
  rw [split, Options.statements, List.length_map, Options.raw, List.filter_map, List.length_map,
    List.countP_eq_length_filter]
  rfl

end SqlScript
