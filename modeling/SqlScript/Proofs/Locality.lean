import SqlScript.Proofs.Blank

namespace SqlScript

namespace Scan

/-- No lexeme goes on with this character, once it has started and unless it is quoted. -/
def isBreak (c : Char) : Bool :=
  !(isWordPart c || ['-', '+', '*', '.', '\'', '"', '\x60'].contains c)

theorem not_isBreak_of_isWordPart {c : Char} (h : isWordPart c = true) : isBreak c = false := by
  simp [isBreak, h]

theorem isWordPart_of_isDigit {c : Char} (h : c.isDigit = true) : isWordPart c = true := by
  simp [isWordPart, Text.isWordChar_of_isDigit h]

theorem not_isBreak_of_isDigit {c : Char} (h : c.isDigit = true) : isBreak c = false :=
  not_isBreak_of_isWordPart (isWordPart_of_isDigit h)

/-- A lexeme may end in front of this character, which goes on with none or starts a comment. -/
def mayStop (c : Char) : Bool :=
  isBreak c || c == '-'

theorem not_mayStop_of_isWordPart {c : Char} (h : isWordPart c = true) : mayStop c = false := by
  have hdash : c ≠ '-' := by
    rintro rfl
    exact absurd h (by decide)
  simp [mayStop, not_isBreak_of_isWordPart h, hdash]

/-- Two texts are the same up to a character of the second that no lexeme goes on with, or up to a
comment of one line in it. -/
inductive Agrees : List Char → List Char → Prop
  | stop {rest rest'} (h : ∀ c ∈ rest'.head?, isBreak c = true) : Agrees rest rest'
  | comment {rest more} : Agrees rest ('-' :: '-' :: more)
  | cons {c rest rest'} (h : Agrees rest rest') : Agrees (c :: rest) (c :: rest')

/-- Once started, a lexeme may go on with these characters up to the last one: none of them ends it,
and no two of them start a comment. -/
structure GoesOn (a : List Char) : Prop where
  not_isBreak : ∀ c ∈ a, isBreak c = false
  dash : ∀ post, '-' :: post <:+ a → ∃ d ∈ post.head?, d ≠ '-'

/-- Where a single dash is read, another one does not come to stand behind it. -/
def KeepsDash (a rest rest' : List Char) : Prop :=
  a = ['-'] → rest'.head? = some '-' → rest.head? = some '-'

variable {rest rest' : List Char}

theorem Agrees.append (h : Agrees rest rest') (a : List Char) :
    Agrees (a ++ rest) (a ++ rest') := by
  induction a with
  | nil => exact h
  | cons c a ih => exact .cons ih

theorem Agrees.head (h : Agrees rest rest') :
    ∀ c ∈ rest'.head?, c ∈ rest.head? ∨ mayStop c = true := by
  cases h with
  | stop h => exact fun c hc => .inr (by simp [mayStop, h c hc])
  | comment =>
    rintro c ⟨⟩
    exact .inr (by decide)
  | cons h => exact fun c hc => .inl hc

theorem GoesOn.tail {c : Char} {a : List Char} (h : GoesOn (c :: a)) : GoesOn a :=
  ⟨fun d hd => h.not_isBreak d (by simp [hd]), fun post hpost =>
    h.dash post (hpost.trans (List.suffix_cons c a))⟩

theorem goesOn_of_not_mayStop {a : List Char} (h : ∀ c ∈ a, mayStop c = false) : GoesOn a := by
  constructor
  · intro c hc
    have hstop := h c hc
    rw [mayStop, Bool.or_eq_false_iff] at hstop
    exact hstop.1
  · intro post hpost
    exact absurd (h '-' (hpost.subset (by simp))) (by decide)

theorem Agrees.isPrefix {a : List Char} (ha : GoesOn a) (h : Agrees rest rest')
    (hp : a <+: rest') : a <+: rest := by
  induction a generalizing rest rest' with
  | nil => exact List.nil_prefix
  | cons c a ih =>
    cases h with
    | stop h =>
      obtain ⟨more, rfl⟩ := hp
      simp [ha.not_isBreak c (by simp)] at h
    | comment =>
      obtain ⟨rfl, htail⟩ := List.cons_prefix_cons.1 hp
      obtain ⟨d, hd, hne⟩ := ha.dash a List.suffix_rfl
      obtain ⟨more, hmore⟩ := htail
      obtain ⟨post, rfl⟩ := List.head?_eq_some_iff.1 hd
      exact absurd (List.cons.inj hmore).1 hne
    | cons h =>
      obtain ⟨rfl, htail⟩ := List.cons_prefix_cons.1 hp
      exact List.cons_prefix_cons.2 ⟨rfl, ih ha.tail h htail⟩

/-- A scanner that turns a text down still does when its rest is another one that agrees. -/
def Rejects (scanner : Scanner) : Prop :=
  ∀ ⦃a rest rest'⦄, a ≠ [] → Agrees rest rest' → KeepsDash a rest rest' →
    scanner (a ++ rest) = none → scanner (a ++ rest') = none

/-- Whether the scanner accepts a text depends on the first character. -/
def TellsByHead (scanner : Scanner) : Prop :=
  ∀ c s s', scanner (c :: s) = none → scanner (c :: s') = none

theorem TellsByHead.rejects {scanner : Scanner} (h : TellsByHead scanner) : Rejects scanner := by
  intro a rest rest' ha _ _ hnone
  obtain ⟨c, a, rfl⟩ := List.exists_cons_of_ne_nil ha
  exact h c _ _ hnone

theorem rejects_of_openers {scanner : Scanner} (opens : Char → List Char → Prop)
    (hopens : ∀ c a, opens c a → ∀ d ∈ a, mayStop d = false)
    (h : ∀ c s, scanner (c :: s) ≠ none ↔ ∃ a, opens c a ∧ a <+: s) : Rejects scanner := by
  intro a rest rest' ha hagrees _ hnone
  obtain ⟨c, a, rfl⟩ := List.exists_cons_of_ne_nil ha
  rw [List.cons_append] at hnone ⊢
  by_contra hsome
  -- An opener that is found behind `a` in the new text stands in the old one too.
  obtain ⟨opener, hopener, hprefix⟩ := (h c _).1 hsome
  exact (h c _).2 ⟨opener, hopener,
    (hagrees.append a).isPrefix (goesOn_of_not_mayStop (hopens c opener hopener)) hprefix⟩ hnone

theorem lineComment?_ne_none_iff (s : List Char) : lineComment? s ≠ none ↔ ['-', '-'] <+: s := by
  constructor
  · intro h
    unfold lineComment? at h
    split at h
    · exact ⟨_, rfl⟩
    · exact absurd rfl h
  · rintro ⟨more, rfl⟩
    simp [lineComment?]

theorem rejects_lineComment? : Rejects lineComment? := by
  intro a rest rest' ha _ hdash hnone
  by_contra hsome
  have hopener := (lineComment?_ne_none_iff _).1 hsome
  refine (lineComment?_ne_none_iff _).2 ?_ hnone
  obtain ⟨c, a, rfl⟩ := List.exists_cons_of_ne_nil ha
  obtain ⟨rfl, hsecond⟩ := List.cons_prefix_cons.1 hopener
  refine List.cons_prefix_cons.2 ⟨rfl, ?_⟩
  cases a with
  | nil =>
    obtain ⟨more, rfl⟩ := hsecond
    obtain ⟨others, hothers⟩ := List.head?_eq_some_iff.1 (hdash rfl rfl)
    exact ⟨others, hothers.symm⟩
  | cons d a =>
    obtain ⟨rfl, -⟩ := List.cons_prefix_cons.1 hsecond
    exact ⟨_, rfl⟩

theorem rejects_blockComment? : Rejects blockComment? := by
  refine rejects_of_openers (fun c a => c = '/' ∧ a = ['*']) ?_ fun c s => ?_
  · rintro c a ⟨-, rfl⟩
    simp [mayStop, isBreak]
  constructor
  · intro h
    unfold blockComment? at h
    split at h
    · next hs =>
      cases hs
      exact ⟨['*'], ⟨rfl, rfl⟩, _, rfl⟩
    · exact absurd rfl h
  · rintro ⟨_, ⟨rfl, rfl⟩, more, rfl⟩
    simp [blockComment?]

theorem rejects_string? : Rejects string? := by
  refine rejects_of_openers
    (fun c a => c = '\'' ∧ a = [] ∨ isStringMarker c = true ∧ a = ['\'']) ?_ fun c s => ?_
  · rintro c a (⟨-, rfl⟩ | ⟨-, rfl⟩) <;> simp [mayStop, isBreak]
  constructor
  · intro h
    unfold string? at h
    split at h
    · next hs =>
      cases hs
      exact ⟨[], .inl ⟨rfl, rfl⟩, List.nil_prefix⟩
    · next hs =>
      cases hs
      split at h
      · next hc => exact ⟨['\''], .inr ⟨hc, rfl⟩, _, rfl⟩
      · exact absurd rfl h
    · exact absurd rfl h
  · rintro ⟨_, ⟨rfl, rfl⟩ | ⟨hc, rfl⟩, more, rfl⟩
    · simp [string?]
    · rw [List.cons_append, List.nil_append, string?.eq_def]
      split
      · simp
      · next hs =>
        cases hs
        simp [hc]
      · next h => exact absurd rfl (h c more)

theorem toNat_lt_of_isTagChar {c : Char} (h : isTagChar c = true) : c.toNat < 0x80 := by
  rw [isTagChar, Char.isAlphanum] at h
  delta Char.isAlpha Char.isUpper Char.isLower Char.isDigit at h
  simp only [Bool.or_eq_true, Bool.and_eq_true, decide_eq_true_eq, beq_iff_eq, ge_iff_le,
    UInt32.le_iff_toNat_le] at h
  rcases h with ((⟨-, h⟩ | ⟨-, h⟩) | ⟨-, h⟩) | rfl
  · exact Nat.lt_of_le_of_lt h (by decide)
  · exact Nat.lt_of_le_of_lt h (by decide)
  · exact Nat.lt_of_le_of_lt h (by decide)
  · decide

theorem isWordPart_of_isTagChar {c : Char} (h : isTagChar c = true) : isWordPart c = true := by
  rw [isTagChar] at h
  simp [isWordPart, Text.isWordChar, toNat_lt_of_isTagChar h, h]

theorem takeWhile_append_cons {α : Type} {p : α → Bool} {tag : List α} (more : List α) {d : α}
    (htag : ∀ c ∈ tag, p c = true) (hd : p d = false) :
    (tag ++ d :: more).takeWhile p = tag ∧ (tag ++ d :: more).dropWhile p = d :: more := by
  rw [List.takeWhile_append_of_pos htag, List.dropWhile_append_of_pos htag,
    List.takeWhile_cons_of_neg (by simp [hd]), List.dropWhile_cons_of_neg (by simp [hd]),
    List.append_nil]
  exact ⟨rfl, rfl⟩

theorem rejects_dollarString? : Rejects dollarString? := by
  refine rejects_of_openers (fun c a => c = '$' ∧ ∃ tag, a = tag ++ ['$'] ∧
    (∀ d ∈ tag, isTagChar d = true) ∧ tag.head?.any Char.isDigit = false) ?_ fun c s => ?_
  · rintro c a ⟨-, tag, rfl, htag, -⟩ d hd
    rcases List.mem_append.1 hd with hd | hd
    · exact not_mayStop_of_isWordPart (isWordPart_of_isTagChar (htag d hd))
    · rw [List.mem_singleton.1 hd]
      decide
  constructor
  · intro h
    unfold dollarString? at h
    split at h
    · next s hs =>
      cases hs
      dsimp only at h
      split at h
      · exact absurd rfl h
      · next htag =>
        split at h
        · next body hbody =>
          have hsplit := List.takeWhile_append_dropWhile (p := isTagChar) (l := s)
          refine ⟨_, ⟨rfl, s.takeWhile isTagChar, rfl, fun d hd => List.mem_takeWhile_imp hd,
            by simpa using htag⟩, body, ?_⟩
          rw [hbody] at hsplit
          simpa using hsplit
        · exact absurd rfl h
    · exact absurd rfl h
  · rintro ⟨_, ⟨rfl, tag, rfl, htag, hdigit⟩, more, rfl⟩
    obtain ⟨htake, hdrop⟩ := takeWhile_append_cons more (d := '$') htag (by decide)
    rw [List.append_assoc, List.cons_append, List.nil_append]
    simp [dollarString?, htake, hdrop, hdigit]

theorem tellsByHead_quotedName? (mark : Char) : TellsByHead (quotedName? mark) :=
  fun c s s' h => by simpa [quotedName?] using h

theorem tellsByHead_bracketName? (previous : Option Char) :
    TellsByHead (bracketName? previous) := by
  intro c s s' h
  by_cases hc : c = '['
  · subst hc
    simpa [bracketName?] using h
  · simp [bracketName?, hc]

theorem tellsByHead_single? (mark : Char) : TellsByHead (single? mark) :=
  fun c s s' h => by simpa [single?] using h

theorem tellsByHead_word? : TellsByHead word? :=
  fun c s s' h => by simpa [word?] using h

theorem tellsByHead_number? : TellsByHead number? := by
  intro c s s' h
  simp only [number?, splitRun, List.takeWhile_cons] at h ⊢
  cases hc : c.isDigit <;> simp_all

theorem tellsByHead_space? : TellsByHead space? :=
  fun c s s' h => by simpa [space?] using h

theorem tellsByHead_anyChar? : TellsByHead anyChar? :=
  fun c s s' h => by simp [anyChar?] at h

/-- What may follow a lexeme in place of `rest`: a text that agrees with it, and the end of the text
only in place of the end. -/
structure Follows (rest rest' : List Char) : Prop where
  agrees : Agrees rest rest'
  nil : rest = [] → rest' = []

theorem Follows.append (h : Follows rest rest') (a : List Char) :
    Follows (a ++ rest) (a ++ rest') :=
  ⟨h.agrees.append a, fun hnil => by
    obtain ⟨rfl, hrest⟩ := List.append_eq_nil_iff.1 hnil
    exact h.nil hrest⟩

/-- A scanner that accepts a lexeme still does when its rest is another one that may follow. -/
def Accepts (scanner : Scanner) : Prop :=
  ∀ ⦃a rest rest'⦄, Follows rest rest' → scanner (a ++ rest) = some (a, rest) →
    scanner (a ++ rest') = some (a, rest')

variable {a : List Char}

theorem exists_of_opened {t : Split} {opener : List Char} (h : t.opened opener = (a, rest)) :
    ∃ a', a = opener ++ a' ∧ t = (a', rest) := by
  cases h
  exact ⟨t.1, rfl, rfl⟩

theorem splitRun_of_stops {p : Char → Bool} (hs : splitRun p (a ++ rest) = (a, rest))
    (hstop : ∀ c ∈ rest'.head?, c ∈ rest.head? ∨ p c = false) :
    splitRun p (a ++ rest') = (a, rest') := by
  rw [splitRun, Prod.mk.injEq] at hs
  have ha : ∀ c ∈ a, p c = true := fun c hc => List.mem_takeWhile_imp (hs.1.symm ▸ hc)
  have hrest : ∀ c ∈ rest.head?, p c = false := by
    intro c hc
    have hnot := List.head?_dropWhile_not p (a ++ rest)
    rw [hs.2, hc] at hnot
    simpa using hnot
  cases hr : rest' with
  | nil =>
    rw [splitRun, List.append_nil, List.takeWhile_eq_self_iff.2 ha, List.dropWhile_eq_nil_iff.2 ha]
  | cons c more =>
    have hc : p c = false := (hstop c (by simp [hr])).elim (hrest c) id
    rw [splitRun, (takeWhile_append_cons _ ha hc).1, (takeWhile_append_cons _ ha hc).2]

theorem Agrees.stops {p : Char → Bool} (hp : ∀ c, p c = true → mayStop c = false)
    (h : Agrees rest rest') : ∀ c ∈ rest'.head?, c ∈ rest.head? ∨ p c = false := by
  intro c hc
  apply (h.head c hc).imp_right
  intro hstop
  by_contra hpc
  simp [hp c (by simpa using hpc)] at hstop

theorem Agrees.stops_digit (h : Agrees rest rest') :
    ∀ c ∈ rest'.head?, c ∈ rest.head? ∨ c.isDigit = false :=
  h.stops fun _ hc => not_mayStop_of_isWordPart (isWordPart_of_isDigit hc)

theorem Agrees.ne_of_not_mayStop {mark : Char} (hmark : mayStop mark = false)
    (h : Agrees rest rest') : ∀ c ∈ rest'.head?, c ∈ rest.head? ∨ c ≠ mark := by
  intro c hc
  refine (h.head c hc).imp_right ?_
  rintro hstop rfl
  simp [hmark] at hstop

theorem word?_of_stops (hstop : ∀ c ∈ rest'.head?, c ∈ rest.head? ∨ isWordPart c = false)
    (hs : word? (a ++ rest) = some (a, rest)) : word? (a ++ rest') = some (a, rest') := by
  unfold word? at hs
  split at hs
  · cases hs
  · next c s heq =>
    split at hs
    · next hc =>
      obtain ⟨a, rfl, hrun⟩ := exists_of_opened (Option.some.inj hs)
      cases heq
      have hrun' : splitRun isWordPart (a ++ rest') = (a, rest') := splitRun_of_stops hrun hstop
      simp [word?, hc, hrun', Split.opened]
    · cases hs

theorem accepts_word? : Accepts word? :=
  fun _ _ _ h => word?_of_stops (h.agrees.stops fun _ => not_mayStop_of_isWordPart)

theorem splitQuoted_ne_nil (mark : Char) (escapes : Bool) (c : Char) (s : List Char) :
    (splitQuoted mark escapes (c :: s)).1 ≠ [] := by
  cases s with
  | nil => simp [splitQuoted]
  | cons d s =>
    rw [splitQuoted]
    split_ifs <;> simp [Split.opened]

theorem splitQuoted_of_stops {mark : Char} {escapes : Bool} (hnil : rest = [] → rest' = [])
    (hstop : ∀ c ∈ rest'.head?, c ∈ rest.head? ∨ c ≠ mark)
    (hs : splitQuoted mark escapes (a ++ rest) = (a, rest)) :
    splitQuoted mark escapes (a ++ rest') = (a, rest') := by
  generalize heq : a ++ rest = s at hs
  fun_induction splitQuoted mark escapes s generalizing a with
  | case1 =>
    cases hs
    rw [hnil rfl]
    rfl
  | case2 c =>
    cases hs
    rw [hnil rfl]
    rfl
  | case3 s ih =>
    obtain ⟨a, rfl, ht⟩ := exists_of_opened hs
    have hi := ih (by simpa using heq) ht
    simp [splitQuoted, hi, Split.opened]
  | case4 d s hd =>
    cases hs
    cases hr : rest' with
    | nil => rfl
    | cons d' more =>
      have hd' : d' ≠ mark := by
        rcases hstop d' (by simp [hr]) with hmem | hne
        · cases hmem
          exact hd
        · exact hne
      simp [splitQuoted, hd']
  | case5 c d s hc hesc ih =>
    obtain ⟨a, rfl, ht⟩ := exists_of_opened hs
    have hi := ih (by simpa using heq) ht
    simp only [List.cons_append, List.nil_append, splitQuoted]
    rw [if_neg hc, if_pos hesc, hi]
    rfl
  | case6 c d s hc hesc ih =>
    obtain ⟨a, rfl, ht⟩ := exists_of_opened hs
    have heq' : a ++ rest = d :: s := by simpa using heq
    have hi := ih heq' ht
    cases a with
    | nil => exact absurd (congrArg Prod.fst ht) (splitQuoted_ne_nil mark escapes d s)
    | cons d' a =>
      simp only [List.cons_append, List.nil_append] at hi ⊢
      rw [splitQuoted, if_neg hc, if_neg hesc, hi]
      rfl

theorem string?_of_stops (hnil : rest = [] → rest' = [])
    (hstop : ∀ c ∈ rest'.head?, c ∈ rest.head? ∨ c ≠ '\'')
    (hs : string? (a ++ rest) = some (a, rest)) : string? (a ++ rest') = some (a, rest') := by
  unfold string? at hs
  split at hs
  · next s heq =>
    obtain ⟨a, rfl, hquoted⟩ := exists_of_opened (Option.some.inj hs)
    have heq' : a ++ rest = s := by simpa using heq
    have hi := splitQuoted_of_stops hnil hstop (heq' ▸ hquoted)
    simp [string?, hi, Split.opened]
  · next c s hne heq =>
    split at hs
    · next hc =>
      obtain ⟨a, rfl, hquoted⟩ := exists_of_opened (Option.some.inj hs)
      have heq' : a ++ rest = s := by simpa using heq
      have hi := splitQuoted_of_stops hnil hstop (heq' ▸ hquoted)
      rw [List.append_assoc, List.cons_append, List.cons_append, List.nil_append, string?.eq_def]
      split
      · next heq'' =>
        cases heq''
        exact (hne rfl).elim
      · next heq'' =>
        cases heq''
        rw [if_pos hc, hi]
        rfl
      · next hnot => exact absurd rfl (hnot c _)
    · cases hs
  · cases hs

theorem accepts_string? : Accepts string? :=
  fun _ _ _ h => string?_of_stops h.nil (h.agrees.ne_of_not_mayStop (by decide))

theorem quotedName?_of_stops {mark : Char} (hnil : rest = [] → rest' = [])
    (hstop : ∀ c ∈ rest'.head?, c ∈ rest.head? ∨ c ≠ mark)
    (hs : quotedName? mark (a ++ rest) = some (a, rest)) :
    quotedName? mark (a ++ rest') = some (a, rest') := by
  unfold quotedName? at hs
  split at hs
  · cases hs
  · next c s heq =>
    split at hs
    · next hc =>
      obtain ⟨a, rfl, hquoted⟩ := exists_of_opened (Option.some.inj hs)
      have heq' : a ++ rest = s := by simpa using heq
      have hi := splitQuoted_of_stops hnil hstop (heq' ▸ hquoted)
      simp [quotedName?, hc, hi, Split.opened]
    · cases hs

theorem accepts_quotedName? {mark : Char} (hmark : mayStop mark = false) :
    Accepts (quotedName? mark) :=
  fun _ _ _ h => quotedName?_of_stops h.nil (h.agrees.ne_of_not_mayStop hmark)

theorem splitThrough_closed (stop s : List Char) :
    (splitThrough stop s).2 = [] ∨ stop <:+ (splitThrough stop s).1 := by
  induction s with
  | nil => exact .inl rfl
  | cons c s ih =>
    rw [splitThrough]
    split
    · exact .inr List.suffix_rfl
    · exact ih.imp_right fun hclosed => hclosed.trans (List.suffix_append ..)

theorem splitThrough_self {stop : List Char} (hstop : stop ≠ []) (s : List Char) :
    splitThrough stop (stop ++ s) = (stop, s) := by
  obtain ⟨c, stop, rfl⟩ := List.exists_cons_of_ne_nil hstop
  rw [List.cons_append, splitThrough, ← List.cons_append,
    if_pos (List.isPrefixOf_iff_prefix.2 (List.prefix_append ..)), List.drop_left]

theorem splitThrough_of_nil {stop : List Char} (hstop : stop ≠ []) (hrest : rest = [] → rest' = [])
    (hs : splitThrough stop (a ++ rest) = (a, rest)) :
    splitThrough stop (a ++ rest') = (a, rest') := by
  generalize heq : a ++ rest = s at hs
  induction s generalizing a with
  | nil =>
    cases hs
    rw [hrest rfl]
    rfl
  | cons c s ih =>
    rw [splitThrough] at hs
    split at hs
    · next hprefix =>
      cases hs
      exact splitThrough_self hstop rest'
    · next hprefix =>
      obtain ⟨a, rfl, ht⟩ := exists_of_opened hs
      have heq' : a ++ rest = s := by simpa using heq
      have hstill : ¬ stop.isPrefixOf (c :: (a ++ rest')) = true := by
        rw [List.isPrefixOf_iff_prefix, ← heq'] at hprefix
        rw [List.isPrefixOf_iff_prefix]
        intro hp
        have hclosed := splitThrough_closed stop s
        rw [ht] at hclosed
        rcases hclosed with hnil | hclosed
        · rw [hrest hnil, ← show rest = [] from hnil] at hp
          exact hprefix hp
        · have hshort : stop <+: c :: a := List.prefix_of_prefix_length_le hp
            (List.prefix_append (c :: a) rest') (Nat.le_succ_of_le hclosed.length_le)
          exact hprefix (hshort.trans (List.prefix_append (c :: a) rest))
      rw [List.append_assoc, List.cons_append, List.nil_append, splitThrough, if_neg hstill,
        ih heq' ht]
      rfl

theorem dollarString?_of_nil (hnil : rest = [] → rest' = [])
    (hs : dollarString? (a ++ rest) = some (a, rest)) :
    dollarString? (a ++ rest') = some (a, rest') := by
  unfold dollarString? at hs
  split at hs
  · next s heq =>
    dsimp only at hs
    split at hs
    · cases hs
    · next hdigit =>
      split at hs
      · next body hbody =>
        obtain ⟨a, rfl, ht⟩ := exists_of_opened (Option.some.inj hs)
        have hsplit := List.takeWhile_append_dropWhile (p := isTagChar) (l := s)
        have htag : ∀ c ∈ s.takeWhile isTagChar, isTagChar c = true :=
          fun c hc => List.mem_takeWhile_imp hc
        rw [hbody] at hsplit
        generalize s.takeWhile isTagChar = tag at *
        subst hsplit
        have heq' : a ++ rest = body := by simpa using heq
        have hi := splitThrough_of_nil (by simp) hnil (heq' ▸ ht)
        obtain ⟨htake, hdrop⟩ :=
          takeWhile_append_cons (a ++ rest') (d := '$') htag (by decide)
        simp only [List.cons_append, List.append_assoc, List.nil_append] at hi ⊢
        simp only [dollarString?, htake, hdrop, if_neg hdigit, hi, Split.opened, List.cons_append,
          List.append_assoc, List.nil_append]
      · cases hs
  · cases hs

theorem accepts_dollarString? : Accepts dollarString? :=
  fun _ _ _ h => dollarString?_of_nil h.nil

theorem bracketName?_of_nil {previous : Option Char} (hnil : rest = [] → rest' = [])
    (hs : bracketName? previous (a ++ rest) = some (a, rest)) :
    bracketName? previous (a ++ rest') = some (a, rest') := by
  unfold bracketName? at hs
  split at hs
  · next s heq =>
    split at hs
    · cases hs
    · next hprevious =>
      obtain ⟨a, rfl, ht⟩ := exists_of_opened (Option.some.inj hs)
      have heq' : a ++ rest = s := by simpa using heq
      have hi := splitThrough_of_nil (by simp) hnil (heq' ▸ ht)
      simp [bracketName?, hprevious, hi, Split.opened]
  · cases hs

theorem accepts_bracketName? (previous : Option Char) : Accepts (bracketName? previous) :=
  fun _ _ _ h => bracketName?_of_nil h.nil

theorem single?_of_accepts {mark : Char} (rest' : List Char)
    (hs : single? mark (a ++ rest) = some (a, rest)) :
    single? mark (a ++ rest') = some (a, rest') := by
  unfold single? at hs
  split at hs
  · cases hs
  · split at hs
    · next hc =>
      cases hs
      simp [single?, hc]
    · cases hs

theorem accepts_single? (mark : Char) : Accepts (single? mark) :=
  fun _ _ rest' _ => single?_of_accepts rest'

theorem anyChar?_of_accepts (rest' : List Char) (hs : anyChar? (a ++ rest) = some (a, rest)) :
    anyChar? (a ++ rest') = some (a, rest') := by
  unfold anyChar? at hs
  split at hs
  · cases hs
  · cases hs
    rfl

theorem accepts_anyChar? : Accepts anyChar? :=
  fun _ _ rest' _ => anyChar?_of_accepts rest'

theorem splitFraction_of_stops (hdigit : ∀ c ∈ rest'.head?, c ∈ rest.head? ∨ c.isDigit = false)
    (hpoint : a = [] → ∀ c ∈ rest'.head?, c ∈ rest.head? ∨ c ≠ '.')
    (hs : splitFraction (a ++ rest) = (a, rest)) : splitFraction (a ++ rest') = (a, rest') := by
  unfold splitFraction at hs
  split at hs
  · next s heq =>
    obtain ⟨a, rfl, ht⟩ := exists_of_opened hs
    have heq' : a ++ rest = s := by simpa using heq
    have hrun : splitRun Char.isDigit (a ++ rest') = (a, rest') :=
      splitRun_of_stops (heq' ▸ ht) hdigit
    simp [splitFraction, hrun, Split.opened]
  · next hnone =>
    cases hs
    cases rest' with
    | nil => rfl
    | cons c more =>
      have hc : c ≠ '.' := by
        rintro rfl
        rcases hpoint rfl '.' rfl with hmem | hne
        · obtain ⟨s, hs⟩ := List.head?_eq_some_iff.1 hmem
          exact hnone s hs
        · exact hne rfl
      rw [List.nil_append, splitFraction.eq_def]
      split
      · next heq =>
        cases heq
        exact absurd rfl hc
      · rfl

/-- A sign, if any, and a digit. -/
def IsSignedDigit (a : List Char) : Prop :=
  ∃ sign d, sign ∈ [[], ['+'], ['-']] ∧ Char.isDigit d = true ∧ a = sign ++ [d]

theorem IsSignedDigit.goesOn (h : IsSignedDigit a) {c : Char} (hc : mayStop c = false) :
    GoesOn (c :: a) := by
  obtain ⟨sign, d, hsign, hd, rfl⟩ := h
  have hdigit := not_mayStop_of_isWordPart (isWordPart_of_isDigit hd)
  have hplain : GoesOn [c, d] := goesOn_of_not_mayStop (by simp [hc, hdigit])
  have hne : d ≠ '-' := by
    rintro rfl
    exact absurd hd (by decide)
  simp only [List.mem_cons, List.not_mem_nil, or_false] at hsign
  rcases hsign with rfl | rfl | rfl
  · exact hplain
  · exact goesOn_of_not_mayStop (by simp [hc, hdigit]; decide)
  · constructor
    · simpa using ⟨hplain.not_isBreak c (by simp), by decide, hplain.not_isBreak d (by simp)⟩
    · intro post hpost
      have hcne : c ≠ '-' := by
        rintro rfl
        exact absurd hc (by decide)
      simp only [List.cons_append, List.nil_append, List.suffix_cons_iff, List.cons.injEq,
        List.suffix_nil, hcne.symm, hne.symm, false_and, reduceCtorEq, or_false, false_or,
        true_and] at hpost
      exact ⟨d, by simp [hpost], hne⟩

theorem takeWhile_ne_nil_iff {p : Char → Bool} {s : List Char} :
    s.takeWhile p ≠ [] ↔ ∃ d, p d = true ∧ [d] <+: s := by
  cases s with
  | nil => simp
  | cons c s => cases hc : p c <;> simp [hc]

theorem splitSign_of_isDigit {d : Char} (hd : d.isDigit = true) (s : List Char) :
    splitSign (d :: s) = ([], d :: s) := by
  unfold splitSign
  split
  · next heq =>
    cases heq
    exact absurd hd (by decide)
  · next heq =>
    cases heq
    exact absurd hd (by decide)
  · rfl

theorem splitSign_mem (s : List Char) : (splitSign s).1 ∈ [[], ['+'], ['-']] := by
  unfold splitSign
  split <;> simp

theorem splitSign_of_mem {sign : List Char} (hsign : sign ∈ [[], ['+'], ['-']]) {d : Char}
    (hd : d.isDigit = true) (s : List Char) : splitSign (sign ++ d :: s) = (sign, d :: s) := by
  simp only [List.mem_cons, List.not_mem_nil, or_false] at hsign
  rcases hsign with rfl | rfl | rfl
  · exact splitSign_of_isDigit hd s
  · rfl
  · rfl

theorem splitSign_ne_nil_iff (s : List Char) :
    (splitRun Char.isDigit (splitSign s).2).1 ≠ [] ↔ ∃ a, IsSignedDigit a ∧ a <+: s := by
  rw [splitRun, takeWhile_ne_nil_iff]
  constructor
  · rintro ⟨d, hd, hprefix⟩
    unfold splitSign at hprefix
    split at hprefix
    · exact ⟨['+'] ++ [d], ⟨['+'], d, by simp, hd, rfl⟩, by simpa using hprefix⟩
    · exact ⟨['-'] ++ [d], ⟨['-'], d, by simp, hd, rfl⟩, by simpa using hprefix⟩
    · exact ⟨[d], ⟨[], d, by simp, hd, rfl⟩, hprefix⟩
  · rintro ⟨_, ⟨sign, d, hsign, hd, rfl⟩, more, rfl⟩
    rw [List.append_assoc, List.cons_append, List.nil_append, splitSign_of_mem hsign hd]
    exact ⟨d, hd, more, rfl⟩

theorem splitExponent_nil_iff (s : List Char) :
    splitExponent s = ([], s) ↔
      ¬ ∃ c a, (c = 'e' ∨ c = 'E') ∧ IsSignedDigit a ∧ c :: a <+: s := by
  cases s with
  | nil => simp [splitExponent]
  | cons c s =>
    have hiff : (∃ d a, (d = 'e' ∨ d = 'E') ∧ IsSignedDigit a ∧ d :: a <+: c :: s) ↔
        (c = 'e' ∨ c = 'E') ∧ (splitRun Char.isDigit (splitSign s).2).1 ≠ [] := by
      rw [splitSign_ne_nil_iff]
      constructor
      · rintro ⟨d, a, hd, ha, hprefix⟩
        obtain ⟨rfl, htail⟩ := List.cons_prefix_cons.1 hprefix
        exact ⟨hd, a, ha, htail⟩
      · rintro ⟨hc, a, ha, hprefix⟩
        exact ⟨c, a, hc, ha, List.cons_prefix_cons.2 ⟨rfl, hprefix⟩⟩
    rw [hiff, splitExponent]
    split
    · next h => simp [Split.opened, h]
    · next h => simp [h]

theorem splitExponent_nil_of_agrees (h : Agrees rest rest')
    (hs : splitExponent rest = ([], rest)) : splitExponent rest' = ([], rest') := by
  rw [splitExponent_nil_iff] at hs ⊢
  rintro ⟨c, a, hc, ha, hprefix⟩
  refine hs ⟨c, a, hc, ha, h.isPrefix (ha.goesOn ?_) hprefix⟩
  rcases hc with rfl | rfl <;> decide

theorem splitExponent_of_stops (hdigit : ∀ c ∈ rest'.head?, c ∈ rest.head? ∨ c.isDigit = false)
    (hnil : a = [] → splitExponent rest = ([], rest) → splitExponent rest' = ([], rest'))
    (hs : splitExponent (a ++ rest) = (a, rest)) : splitExponent (a ++ rest') = (a, rest') := by
  cases a with
  | nil => exact hnil rfl hs
  | cons c a =>
    rw [List.cons_append, splitExponent] at hs
    split at hs
    · next hexp =>
      have hsign := splitSign_mem (a ++ rest)
      have hwhole := Scan.splitSign_append (a ++ rest)
      generalize splitSign (a ++ rest) = signed at hs hexp hsign hwhole
      obtain ⟨ds, hds, hrun⟩ := exists_of_opened hs
      obtain ⟨sign, digits⟩ := signed
      obtain rfl : a = sign ++ ds := by simpa using hds
      have hdigits : digits = ds ++ rest :=
        List.append_cancel_left (hwhole.trans (List.append_assoc ..))
      subst hdigits
      have hne : ds ≠ [] := fun hnil => hexp.2 (by rw [hrun, hnil])
      obtain ⟨d, ds, rfl⟩ := List.exists_cons_of_ne_nil hne
      have hmem : d ∈ (splitRun Char.isDigit (d :: ds ++ rest)).1 := by
        rw [show splitRun Char.isDigit (d :: ds ++ rest) = (d :: ds, rest) from hrun]
        exact List.mem_cons_self
      have hd : d.isDigit = true := List.mem_takeWhile_imp hmem
      have hrun' : splitRun Char.isDigit (d :: ds ++ rest') = (d :: ds, rest') :=
        splitRun_of_stops hrun hdigit
      have hsign' := splitSign_of_mem hsign hd (ds ++ rest')
      rw [← List.cons_append, ← List.append_assoc] at hsign'
      rw [List.cons_append, splitExponent, hsign', hrun', if_pos ⟨hexp.1, by simp⟩]
      rfl
    · cases hs

theorem stops_append {P : Char → Prop} (hstop : ∀ c ∈ rest'.head?, c ∈ rest.head? ∨ P c)
    (a : List Char) : ∀ c ∈ (a ++ rest').head?, c ∈ (a ++ rest).head? ∨ P c := by
  cases a with
  | nil => exact hstop
  | cons d a => exact fun c hc => .inl hc

theorem isDigit_of_splitFraction {s : List Char} (hs : splitFraction s = (a, rest)) :
    ∀ c ∈ a, c.isDigit = true ∨ c = '.' := by
  unfold splitFraction at hs
  split at hs
  · obtain ⟨a, rfl, hrun⟩ := exists_of_opened hs
    rw [splitRun, Prod.mk.injEq] at hrun
    simpa using fun c hc => Or.inl (List.mem_takeWhile_imp (hrun.1.symm ▸ hc))
  · cases hs
    simp

theorem number?_of_stops (hdigit : ∀ c ∈ rest'.head?, c ∈ rest.head? ∨ c.isDigit = false)
    (hpoint : (∀ c ∈ a, c.isDigit = true) → ∀ c ∈ rest'.head?, c ∈ rest.head? ∨ c ≠ '.')
    (hexponent : (∀ c ∈ a, c.isDigit = true ∨ c = '.') → splitExponent rest = ([], rest) →
      splitExponent rest' = ([], rest'))
    (hs : number? (a ++ rest) = some (a, rest)) : number? (a ++ rest') = some (a, rest') := by
  generalize heq : a ++ rest = s at hs
  simp only [number?] at hs
  split at hs
  · cases hs
  · next hwhole =>
    obtain ⟨exponent, rfl, hsplit⟩ := exists_of_opened (Option.some.inj hs)
    have hs₀ := splitRun_append Char.isDigit s
    have hs₁ := splitFraction_append (splitRun Char.isDigit s).2
    have hs₂ := splitExponent_append (splitFraction (splitRun Char.isDigit s).2).2
    cases hrun : splitRun Char.isDigit s with
    | mk whole s₁ =>
      simp only [hrun] at hwhole hsplit hs₀ hs₁ hs₂ hpoint hexponent ⊢
      have hdigits : ∀ c ∈ whole, c.isDigit = true := by
        rw [splitRun, Prod.mk.injEq] at hrun
        exact fun c hc => List.mem_takeWhile_imp (hrun.1.symm ▸ hc)
      cases hfraction : splitFraction s₁ with
      | mk fraction s₂ =>
        simp only [hfraction] at hsplit hs₁ hs₂ hpoint hexponent ⊢
        rw [hsplit] at hs₂
        subst hs₂ hs₁ hs₀
        have hplain := isDigit_of_splitFraction hfraction
        have hexponent' : splitExponent (exponent ++ rest') = (exponent, rest') := by
          refine splitExponent_of_stops hdigit (fun hnil => hexponent fun c hc => ?_) hsplit
          rw [hnil, List.append_nil] at hc
          rcases List.mem_append.1 hc with hc | hc
          · exact .inl (hdigits c hc)
          · exact hplain c hc
        have hfraction' : splitFraction (fraction ++ (exponent ++ rest')) =
            (fraction, exponent ++ rest') := by
          refine splitFraction_of_stops (stops_append hdigit exponent) (fun hnil => ?_) hfraction
          cases exponent with
          | nil => exact hpoint fun c hc => hdigits c (by simpa [hnil] using hc)
          | cons d exponent => exact fun c hc => .inl hc
        have hrun' := splitRun_of_stops hrun
          (stops_append (stops_append hdigit exponent) fraction)
        rw [List.append_assoc, List.append_assoc]
        simp only [number?, hrun', hfraction', hexponent', if_neg hwhole, Split.opened,
          List.append_assoc]

theorem accepts_number? : Accepts number? :=
  fun _ _ _ h => number?_of_stops h.agrees.stops_digit
    (fun _ => h.agrees.ne_of_not_mayStop (by decide)) fun _ => splitExponent_nil_of_agrees h.agrees

end Scan

namespace Lexer

open Scan

/-- All rules but those for comments and strings tell by the first character. -/
theorem rules_tellByHead (previous : Option Char) : ∀ rule ∈ rules previous,
    rule.1 ∉ [.lineComment, .blockComment, .stringLiteral] → TellsByHead rule.2 := by
  simp only [rules, List.forall_mem_cons]
  refine ⟨fun h => absurd (by decide) h, fun h => absurd (by decide) h,
    fun h => absurd (by decide) h, fun h => absurd (by decide) h,
    fun _ => tellsByHead_quotedName? _, fun _ => tellsByHead_quotedName? _,
    fun _ => tellsByHead_bracketName? _,
    fun _ => tellsByHead_single? _, fun _ => tellsByHead_single? _, fun _ => tellsByHead_single? _,
    fun _ => tellsByHead_word?, fun _ => tellsByHead_number?, fun _ => tellsByHead_space?,
    fun _ => tellsByHead_anyChar?, by simp⟩

/-- The scanners of the first rules, those for comments and strings. -/
def openers : List Scanner :=
  [lineComment?, blockComment?, string?, dollarString?]

theorem mem_openers {previous : Option Char} : ∀ rule ∈ rules previous,
    rule.1 ∈ [.lineComment, .blockComment, .stringLiteral] → rule.2 ∈ openers := by
  simp [rules, openers]

theorem openers_reject : ∀ scanner ∈ openers, Rejects scanner := by
  simp only [openers, List.forall_mem_cons]
  exact ⟨rejects_lineComment?, rejects_blockComment?, rejects_string?, rejects_dollarString?,
    by simp⟩

theorem rules_reject (previous : Option Char) : ∀ rule ∈ rules previous, Rejects rule.2 := by
  intro rule hmem
  by_cases hopener : rule.1 ∈ [.lineComment, .blockComment, .stringLiteral]
  · exact openers_reject rule.2 (mem_openers rule hmem hopener)
  · exact (rules_tellByHead previous rule hmem hopener).rejects

theorem rules_accept (previous : Option Char) :
    ∀ rule ∈ rules previous, rule.1 ∉ [.lineComment, .blockComment, .space] → Accepts rule.2 := by
  simp only [rules, List.forall_mem_cons]
  refine ⟨fun h => absurd (by decide) h, fun h => absurd (by decide) h, fun _ => accepts_string?,
    fun _ => accepts_dollarString?, fun _ => accepts_quotedName? (by decide),
    fun _ => accepts_quotedName? (by decide), fun _ => accepts_bracketName? _,
    fun _ => accepts_single? _, fun _ => accepts_single? _, fun _ => accepts_single? _,
    fun _ => accepts_word?, fun _ => accepts_number?, fun h => absurd (by decide) h,
    fun _ => accepts_anyChar?, by simp⟩

end Lexer

end SqlScript
