import SqlScript.Proofs.NestedStatements

namespace SqlScript

open Nesting

/-- A word that means nothing else, or a quoted name. -/
structure IsNamePart (c : Token) : Prop where
  kind : c.kind = .word ∨ c.kind = .quotedName
  keyword : c.keyword ∉ [.blockBegin, .blockEnd, .caseOpen, .create, .declare, .routine]

/-- A name of one or more parts with dots between them, and its last part. -/
inductive DottedName : List Token → Token → Prop
  | last {c} (hc : IsNamePart c) : DottedName [c] c
  | cons {c dot rest name} (hc : IsNamePart c) (hdot : dot.text = ['.'])
      (hrest : DottedName rest name) : DottedName (c :: dot :: rest) name

/-- Declarations of a package, with or without bodies, in any order. -/
inductive Members : List Token → List Token → Prop
  | items {xs after} (hxs : Items .body xs after) : Members xs after
  | word {xs w rest after} (hxs : Items .body xs (w :: (rest ++ after)))
      (hw : w.keyword = .declare ∨ w.keyword = .routine) (hrest : Members rest after) :
      Members (xs ++ w :: rest) after

/-- What a package holds: its members, and a last part that is run when the package is loaded and
that shares the `END` of the package. -/
inductive PackageBody : List Token → List Token → Prop
  | members {xs after} (hxs : Members xs after) : PackageBody xs after
  | initialized {xs b ys after} (hxs : Members xs (b :: (ys ++ after)))
      (hb : StartsBlock b (ys ++ after)) (hys : Items .body ys after) :
      PackageBody (xs ++ b :: ys) after

/-- No `END` stands right before the name. One that does, of a member that is named like its
package, closes the package. -/
def NeverEnds (name : List Char) (xs : List Token) : Prop :=
  xs.IsChain fun a b => a.keyword = .blockEnd → b.text ≠ name

/-- The tokens make up a package up to its own `END`, if the tokens `after` follow them. -/
inductive IsPackage (name : Token) : List Token → List Token → Prop
  | mk {k ms pk bodies names xs e after} (hk : k.keyword = .create)
      (hms : ∀ m ∈ ms, m.keyword = .modifier) (hpk : pk.keyword = .package)
      (hbodies : ∀ b ∈ bodies, b.keyword = .body) (hnames : DottedName names name)
      (hfirst : ∀ c ∈ names.head?, c.keyword ∉ [.modifier, .package, .body])
      (hname : name.keyword ≠ .control) (hxs : PackageBody xs (e :: after))
      (hdot : ∀ t ∈ xs.head?, t.text ≠ ['.']) (hends : NeverEnds name.text xs)
      (he : e.keyword = .blockEnd) :
      IsPackage name (k :: (ms ++ pk :: (bodies ++ (names ++ (xs ++ [e]))))) after

variable {script : List Char} {before xs names after rest : List Token} {c name t u : Token}
  {d d' : Nat} {p : Option (List Char)} {s : List Char} {cs : List Cursor} {cursor : Cursor}

namespace Scan

/-- Every lexeme that the scanner accepts starts with such a character. -/
def StartsWith (p : Char → Bool) (scanner : Scanner) : Prop :=
  ∀ s a rest, scanner s = some (a, rest) → ∀ c ∈ a.head?, p c = true

theorem startsWith_word? : StartsWith isWordPart word? := by
  intro s a rest h c hc
  unfold word? at h
  split at h
  · cases h
  · next d s =>
    split at h
    · next hd =>
      cases h
      cases hc
      exact isWordPart_of_isWordStart hd
    · cases h

theorem startsWith_number? : StartsWith isWordPart number? := by
  intro s a rest h c hc
  unfold number? at h
  dsimp only at h
  split at h
  · cases h
  · next hne =>
    cases h
    rw [List.append_assoc, List.head?_append_of_ne_nil _ hne] at hc
    have hdigit : c.isDigit = true := List.mem_takeWhile_imp (List.mem_of_mem_head? hc)
    simp [isWordPart, Text.isWordChar_of_isDigit hdigit]

theorem startsWith_quotedName? {mark : Char} (hmark : isWordPart mark = false) :
    StartsWith (!isWordPart ·) (quotedName? mark) := by
  intro s a rest h c hc
  unfold quotedName? at h
  split at h
  · cases h
  · split at h
    · next hd =>
      cases h
      cases hc
      simp [hd, hmark]
    · cases h

theorem startsWith_bracketName? (previous : Option Char) :
    StartsWith (!isWordPart ·) (bracketName? previous) := by
  intro s a rest h c hc
  unfold bracketName? at h
  split at h
  · split at h
    · cases h
    · cases h
      cases hc
      decide
  · cases h

end Scan

section Lexemes

open Lexer Scan

theorem head?_of_word (h : t ∈ tokens script) (hk : t.kind = .word) :
    ∀ c ∈ t.text.head?, isWordPart c = true := by
  obtain ⟨previous, s, rest, hnext⟩ := exists_next?_of_mem h
  obtain ⟨rule, hmem, hkind, hsplit⟩ := exists_rule_of_next? hnext
  have hrules : ∀ rule ∈ rules previous, rule.1 = .word → StartsWith isWordPart rule.2 := by
    simp [rules, startsWith_word?, startsWith_number?]
  exact hrules rule hmem (hkind.trans hk) s _ _ hsplit

theorem head?_of_quotedName (h : t ∈ tokens script) (hk : t.kind = .quotedName) :
    ∀ c ∈ t.text.head?, isWordPart c = false := by
  obtain ⟨previous, s, rest, hnext⟩ := exists_next?_of_mem h
  obtain ⟨rule, hmem, hkind, hsplit⟩ := exists_rule_of_next? hnext
  have hquote : isWordPart '"' = false ∧ isWordPart '\x60' = false := by decide
  have hrules : ∀ rule ∈ rules previous, rule.1 = .quotedName →
      StartsWith (!isWordPart ·) rule.2 := by
    simp [rules, startsWith_quotedName?, startsWith_bracketName?, hquote]
  intro c hc
  simpa using hrules rule hmem (hkind.trans hk) s _ _ hsplit c hc

theorem keyword_of_text_eq (ht : t ∈ tokens script) (hc : c ∈ tokens script) (hpart : IsNamePart c)
    (h : t.text = c.text) : t.keyword = .plain ∨ t.keyword = c.keyword := by
  by_cases hk : t.kind = .word
  · rcases hpart.kind with hword | hquoted
    · exact .inr (by simp [Token.keyword, Token.capitals, hk, hword, h])
    · obtain ⟨d, text, htext⟩ := List.exists_cons_of_ne_nil (text_ne_nil ht)
      have hd : d ∈ t.text.head? := by simp [htext]
      have hquote := head?_of_quotedName hc hquoted d (h ▸ hd)
      rw [head?_of_word ht hk d hd] at hquote
      cases hquote
  · exact .inl (Token.keyword_of_kind_ne hk)

theorem text_ne_of_blockEnd {e : Token} (he : e.keyword = .blockEnd) (hmem : e ∈ tokens script)
    (hc : c ∈ tokens script) (hpart : IsNamePart c) : e.text ≠ c.text := by
  intro h
  have hkeyword := hpart.keyword
  rcases keyword_of_text_eq hmem hc hpart h with hplain | hsame
  · simp [he] at hplain
  · simp [← hsame, he] at hkeyword

end Lexemes

namespace Nesting

/-- So many blocks are open in a package, and a header or none. -/
def Within (d : Nat) (name : List Char) (s : Nesting) : Prop :=
  ∃ h, Open d h (some name) s

theorem passes_within (h : ∀ waits, ∃ waits',
      Passes (Open d waits (some s)) cs (Open d' waits' (some s))) :
    Passes (Within d s) cs (Within d' s) := by
  intro state hstate
  obtain ⟨waits, hopen⟩ := hstate
  obtain ⟨waits', hpass⟩ := h waits
  obtain ⟨state', hrun, hopen'⟩ := hpass state hopen
  exact ⟨state', hrun, waits', hopen'⟩

theorem Moves.within (h : Moves (some s) d cs d') : Passes (Within d s) cs (Within d' s) :=
  passes_within fun waits => ⟨_, h waits⟩

theorem passes_createsPackage (hk : cursor.token.keyword = .create)
    (hname : cursor.packageName? = some s) : Passes (Open d false none) [cursor] (Within d s) := by
  apply passes_of_describes (r := .createsPackage s) ⟨hk, hname⟩
  intro state hstate
  exact ⟨rfl, false, hstate.depth, hstate.inHeader, rfl⟩

theorem passes_member (hk : cursor.token.keyword = .declare ∨ cursor.token.keyword = .routine) :
    Passes (Within d s) [cursor] (Within d s) := by
  apply passes_within
  intro waits
  rcases hk with hk | hk
  · exact ⟨true, passes_declare hk⟩
  · exact ⟨true, passes_routine hk (.inr (.inl rfl))⟩

/-- The `END` with the name of the package closes it, and the header and the block in it, if there
are any. -/
theorem passes_closesPackage (hd : d ≤ 1) (hc : cursor.closesBlock = true)
    (hname : cursor.following?.map (·.text) = some s) :
    Passes (Within d s) [cursor] (Open 0 false none) := by
  apply passes_of_describes (r := .closes (some s)) ⟨hc, hname⟩
  intro state hstate
  obtain ⟨waits, hopen⟩ := hstate
  have hcloses : state.inPackage = true ∧ some s = state.package := by
    simp [inPackage, hopen.package]
  have hdepth : state.depth - 1 = 0 := by
    rw [hopen.depth]
    omega
  rw [step, close_eq, if_pos hcloses]
  exact ⟨rfl, hdepth, rfl, rfl⟩

end Nesting

theorem IsNamePart.inert (hc : IsNamePart c) : Inert c rest := by
  rcases hc.kind with hk | hk
  all_goals exact ⟨by simp [Token.isSignificant, Token.isComment, hk], by simp [hk], by simp [hk],
    .inl hc.keyword⟩

theorem inert_of_content (ht : t ∈ significant (tokens script)) (hcontent : content t.text ≠ [])
    (hk : t.keyword ∉ [.blockBegin, .blockEnd, .caseOpen, .create, .declare, .routine]) :
    Inert t rest := by
  rw [ne_eq, content_text_eq_nil_iff (List.mem_filter.1 ht).1] at hcontent
  simp only [Lexer.blankKinds, List.mem_cons, List.not_mem_nil, or_false, not_or] at hcontent
  exact ⟨isSignificant_of_mem_significant ht, hcontent.2.1, hcontent.2.2, .inl hk⟩

theorem DottedName.isNamePart (h : DottedName names name) : IsNamePart name := by
  induction h with
  | last hc => exact hc
  | cons _ _ _ ih => exact ih

theorem DottedName.mem (h : DottedName names name) : name ∈ names := by
  induction h with
  | last => simp
  | cons _ _ _ ih => exact List.mem_cons_of_mem _ (List.mem_cons_of_mem _ ih)

theorem DottedName.inert (h : DottedName names name)
    (hmem : ∀ t ∈ names, t ∈ significant (tokens script)) : ∀ t ∈ names, ∀ rest, Inert t rest := by
  induction h with
  | last hc => simpa using fun _ => hc.inert
  | @cons c dot rest name hc hdot _ ih =>
    obtain ⟨-, hdotmem, hrest⟩ := by simpa only [List.forall_mem_cons] using hmem
    have hcontent : content dot.text ≠ [] := by
      rw [hdot]
      decide
    exact List.forall_mem_cons.2 ⟨fun _ => hc.inert, List.forall_mem_cons.2
      ⟨fun _ => inert_of_content hdotmem hcontent (by simp [Token.keyword_of_dot hdot]), ih hrest⟩⟩

theorem DottedName.lastPart (h : DottedName names name)
    (hafter : ∀ t ∈ after.head?, t.text ≠ ['.']) :
    ∃ c tail, names = c :: tail ∧ Cursor.lastPart c (tail ++ after) = name := by
  induction h with
  | @last c hc =>
    refine ⟨c, [], rfl, ?_⟩
    rw [List.nil_append]
    cases after with
    | nil => rfl
    | cons t after =>
      cases after with
      | nil => rfl
      | cons u after => rw [Cursor.lastPart, if_neg (hafter t rfl)]
  | @cons c dot rest name hc hdot hrest ih =>
    obtain ⟨part, tail, rfl, hlast⟩ := ih
    refine ⟨c, dot :: part :: tail, rfl, ?_⟩
    rw [List.cons_append, List.cons_append, Cursor.lastPart, if_pos hdot, hlast]

theorem endsWithName_of_neverEnds {e : Token} (hends : NeverEnds s (xs ++ [e]))
    (hsig : ∀ t ∈ xs ++ e :: after, t.isSignificant = true) :
    ∀ c ∈ cursorsBetween before xs (e :: after), c.endsWithName s = false := by
  induction xs generalizing before with
  | nil => simp
  | cons t xs ih =>
    rw [NeverEnds, List.cons_append, List.isChain_cons] at hends
    rw [List.cons_append, List.forall_mem_cons] at hsig
    obtain ⟨hhead, htail⟩ := hends
    obtain ⟨-, hrest⟩ := hsig
    rw [cursorsBetween_cons]
    apply List.forall_mem_cons.2 ⟨?_, ih htail hrest⟩
    apply Bool.eq_false_iff.2
    intro hname
    rw [Cursor.endsWithName, Bool.and_eq_true, beq_iff_eq,
      following?_of_significant before t hrest] at hname
    obtain ⟨u, hu, htext⟩ := Option.map_eq_some_iff.1 hname.2
    refine hhead u ?_ (Cursor.keyword_of_closesBlock hname.1) htext
    cases xs <;> exact hu

theorem Members.isSolid (hxs : Members xs after) : ∀ t ∈ xs, IsSolid t := by
  induction hxs with
  | items hxs => exact hxs.isSolid
  | word hxs hw _ ih =>
    simp only [List.forall_mem_cons, List.forall_mem_append]
    refine ⟨hxs.isSolid, ?_, ih⟩
    rcases hw with hw | hw <;> exact isSolid_of_keyword hw (by simp)

theorem PackageBody.isSolid (hxs : PackageBody xs after) : ∀ t ∈ xs, IsSolid t := by
  cases hxs with
  | members hxs => exact hxs.isSolid
  | initialized hxs hb hys =>
    simp only [List.forall_mem_cons, List.forall_mem_append]
    exact ⟨hxs.isSolid, isSolid_of_keyword hb.keyword (by simp), hys.isSolid⟩

theorem Items.passes_within (hxs : Items .body xs after)
    (hafter : ∀ t ∈ after, t.isSignificant = true) (hbefore : OpensFreely before xs)
    (hp : ∀ c ∈ cursorsBetween before xs after, c.endsWithName s = false) :
    Passes (Within d s) (cursorsBetween before xs after) (Within d s) :=
  (hxs.keepsDepth (p := some s) hafter (fun _ => .inr rfl) _ hbefore (by simpa using hp)).within

theorem Members.passes (hxs : Members xs after) (hafter : ∀ t ∈ after, t.isSignificant = true)
    (hbefore : OpensFreely before xs)
    (hp : ∀ c ∈ cursorsBetween before xs after, c.endsWithName s = false) :
    Passes (Within 0 s) (cursorsBetween before xs after) (Within 0 s) := by
  induction hxs generalizing before with
  | items hxs => exact hxs.passes_within hafter hbefore hp
  | @word xs w rest after hxs hw hrest ih =>
    have hsigw : w.isSignificant = true := by
      rcases hw with hw | hw <;> exact (isSolid_of_keyword hw (by simp)).isSignificant
    have hsig : ∀ t ∈ w :: (rest ++ after), t.isSignificant = true :=
      List.forall_mem_cons.2 ⟨hsigw,
        List.forall_mem_append.2 ⟨fun t ht => (hrest.isSolid t ht).isSignificant, hafter⟩⟩
    rw [cursorsBetween_append, cursorsBetween_cons] at hp ⊢
    have hitems := hxs.passes_within (d := 0) hsig hbefore.left
      fun c hc => hp c (List.mem_append_left _ hc)
    have hfree : OpensFreely (w :: (xs.reverse ++ before)) rest :=
      opensFreely_cons _ rest hsigw fun he => by rcases hw with hw | hw <;> simp [hw] at he
    exact hitems.append ((passes_member hw).cons
      (ih hafter hfree fun c hc => hp c (by simp [hc])))

/-- The body of a package leaves the block open that the `END` of the package closes, if there is
one. -/
theorem PackageBody.passes (hxs : PackageBody xs after)
    (hafter : ∀ t ∈ after, t.isSignificant = true) (hbefore : OpensFreely before xs)
    (hp : ∀ c ∈ cursorsBetween before xs after, c.endsWithName s = false) :
    ∃ d ≤ 1, Passes (Within 0 s) (cursorsBetween before xs after) (Within d s) := by
  cases hxs with
  | members hxs => exact ⟨0, Nat.zero_le 1, hxs.passes hafter hbefore hp⟩
  | @initialized xs b ys _ hxs hb hys =>
    have hsigb := (isSolid_of_keyword hb.keyword (by simp)).isSignificant
    have hsig : ∀ t ∈ ys ++ after, t.isSignificant = true :=
      List.forall_mem_append.2 ⟨hys.isSignificant, hafter⟩
    rw [cursorsBetween_append, cursorsBetween_cons] at hp ⊢
    have hmembers := hxs.passes (List.forall_mem_cons.2 ⟨hsigb, hsig⟩) hbefore.left
      fun c hc => hp c (List.mem_append_left _ hc)
    have hbegin := moves_opensBegin (p := some s) (d := 0)
      (hb.opensBegin (xs.reverse ++ before) hsig)
    have hfree : OpensFreely (b :: (xs.reverse ++ before)) ys :=
      opensFreely_cons _ ys hsigb fun he => by simp [hb.keyword] at he
    have hinside := hys.passes_within (d := 1) hafter hfree fun c hc => hp c (by simp [hc])
    exact ⟨1, le_rfl, hmembers.append (hbegin.within.cons hinside)⟩

theorem opensFreely_of_inert (hne : names ≠ []) (hnames : ∀ t ∈ names, ∀ rest, Inert t rest) :
    OpensFreely (names.reverse ++ before) xs := by
  rcases List.eq_nil_or_concat names with rfl | ⟨init, u, rfl⟩
  · exact absurd rfl hne
  have hu := hnames u (by simp) []
  rw [List.concat_eq_append, List.reverse_append]
  exact opensFreely_cons _ xs hu.isSignificant fun he => absurd he (hu.keyword_ne (by simp))

theorem passes_inert (hxs : ∀ t ∈ xs, ∀ rest, Inert t rest)
    (hafter : ∀ t ∈ after, t.isSignificant = true) :
    Passes (Within d s) (cursorsBetween before xs after) (Within d s) := by
  induction xs generalizing before with
  | nil => exact .nil
  | cons t xs ih =>
    obtain ⟨ht, hxs⟩ := List.forall_mem_cons.1 hxs
    have hsig : ∀ u ∈ xs ++ after, u.isSignificant = true :=
      List.forall_mem_append.2 ⟨fun u hu => (hxs u hu []).isSignificant, hafter⟩
    rw [cursorsBetween_cons]
    exact ((ht _).moves hsig).within.cons (ih hxs)

section Head

variable {pk : Token} {ms bodies : List Token} (hms : ∀ m ∈ ms, m.keyword = .modifier)
  (hpk : pk.keyword = .package) (hbodies : ∀ b ∈ bodies, b.keyword = .body)
  (hnames : DottedName names name)
  (hfirst : ∀ c ∈ names.head?, c.keyword ∉ [.modifier, .package, .body])
  (hafter : ∀ t ∈ after.head?, t.text ≠ ['.'])
  (hsig : ∀ t ∈ ms ++ pk :: (bodies ++ (names ++ after)), t.isSignificant = true)
include hms hpk hbodies hnames hfirst hafter hsig

/-- The name of a package is the last part of the name behind `PACKAGE` or `PACKAGE BODY`. -/
theorem packageName?_of_dottedName (before : List Token) (k : Token) :
    Cursor.packageName? ⟨before, k, ms ++ pk :: (bodies ++ (names ++ after))⟩ =
      some name.text := by
  obtain ⟨c, tail, rfl, hlast⟩ := hnames.lastPart hafter
  have hdrop : (bodies ++ (c :: tail ++ after)).dropWhile
      (fun t => [.modifier, .package, .body].contains t.keyword) = c :: (tail ++ after) := by
    rw [List.dropWhile_append_of_pos fun b hb => by simp [hbodies b hb], List.cons_append,
      List.dropWhile_cons_of_neg]
    simpa using hfirst c rfl
  rw [Cursor.packageName?, object_of_modifiers before k hms hsig (by simp [hpk])]
  dsimp only
  rw [if_pos hpk, hdrop]
  dsimp only
  rw [hlast]

theorem passes_packageHead {k : Token} (hk : k.keyword = .create)
    (hmem : ∀ t ∈ names, t ∈ significant (tokens script)) :
    Passes (Open 0 false none) (cursorsBetween [] (k :: (ms ++ (pk :: bodies ++ names))) after)
      (Within 0 name.text) := by
  have hname := packageName?_of_dottedName hms hpk hbodies hnames hfirst hafter hsig [] k
  have hwords {ws before after : List Token}
      (hws : ∀ w ∈ ws, w.keyword ∈ [.package, .objectType, .body, .modifier, .method]) :
      Passes (Within 0 name.text) (cursorsBetween before ws after) (Within 0 name.text) :=
    passes_within fun waits => ⟨waits, passes_words hws⟩
  have hpackage : ∀ w ∈ pk :: bodies,
      w.keyword ∈ [.package, .objectType, .body, .modifier, .method] :=
    List.forall_mem_cons.2 ⟨by simp [hpk], fun b hb => by simp [hbodies b hb]⟩
  rw [cursorsBetween_cons, cursorsBetween_append, cursorsBetween_append]
  simp only [List.append_assoc, List.cons_append]
  refine (passes_createsPackage hk hname).cons ?_
  refine (hwords fun m hm => by simp [hms m hm]).append ((hwords hpackage).append ?_)
  simp only [List.forall_mem_append, List.forall_mem_cons] at hsig
  exact passes_inert (hnames.inert hmem) hsig.2.2.2.2

end Head

theorem IsPackage.isNamePart {package : List Token} (hpackage : IsPackage name package after) :
    name ∈ package ∧ IsNamePart name := by
  obtain ⟨-, -, -, -, hnames, -, -, -, -, -, -⟩ := hpackage
  exact ⟨by simp [hnames.mem], hnames.isNamePart⟩

theorem IsPackage.isSolid {package : List Token} (hpackage : IsPackage name package after)
    (hmem : ∀ t ∈ package, t ∈ significant (tokens script)) : ∀ t ∈ package, IsSolid t := by
  obtain ⟨hk, hms, hpk, hbodies, hnames, -, -, hxs, -, -, he⟩ := hpackage
  simp only [List.forall_mem_cons, List.forall_mem_append] at hmem ⊢
  have hinert := hnames.inert hmem.2.2.2.2.1
  exact ⟨isSolid_of_keyword hk (by simp), fun m hm => isSolid_of_keyword (hms m hm) (by simp),
    isSolid_of_keyword hpk (by simp), fun b hb => isSolid_of_keyword (hbodies b hb) (by simp),
    fun c hc => ⟨(hinert c hc []).isSignificant, (hinert c hc []).not_separator⟩, hxs.isSolid,
    isSolid_of_keyword he (by simp), by simp⟩

theorem IsPackage.passes {package : List Token} {closing : Token}
    (hpackage : IsPackage name package (closing :: after))
    (hmem : ∀ t ∈ package, t ∈ significant (tokens script))
    (hclosing : closing.text = name.text)
    (hnext : closing.keyword = .plain ∨ closing.keyword = name.keyword)
    (hafter : ∀ t ∈ closing :: after, t.isSignificant = true) :
    Passes (Open 0 false none) (cursorsBetween [] package (closing :: after))
      (Open 0 false none) := by
  have hsig : ∀ t ∈ package ++ closing :: after, t.isSignificant = true :=
    List.forall_mem_append.2 ⟨fun t ht => (hpackage.isSolid hmem t ht).isSignificant, hafter⟩
  cases hpackage with
  | @mk k ms pk bodies names xs e _ hk hms hpk hbodies hnames hfirst hname hxs hdot hends he =>
    simp only [List.forall_mem_cons, List.forall_mem_append] at hmem
    obtain ⟨-, -, -, -, hmemnames, -, hmeme, -⟩ := hmem
    have hsighead : ∀ t ∈ ms ++ pk :: (bodies ++ (names ++ (xs ++ e :: closing :: after))),
        t.isSignificant = true := by
      rw [List.cons_append, List.forall_mem_cons] at hsig
      simpa only [List.append_assoc, List.cons_append, List.nil_append] using hsig.2
    have hsigxs : ∀ t ∈ xs ++ e :: closing :: after, t.isSignificant = true := fun t ht =>
      hsighead t (List.mem_append_right _ (List.mem_cons_of_mem _
        (List.mem_append_right _ (List.mem_append_right _ ht))))
    have hdot' : ∀ t ∈ (xs ++ e :: closing :: after).head?, t.text ≠ ['.'] := by
      cases xs with
      | nil =>
        intro t ht hdot
        cases ht
        simp [Token.keyword_of_dot hdot] at he
      | cons t xs => exact hdot
    have hhead := passes_packageHead hms hpk hbodies hnames hfirst hdot' hsighead hk hmemnames
    have hfree : OpensFreely ((k :: (ms ++ (pk :: bodies ++ names))).reverse ++ []) xs := by
      have hname :
          OpensFreely (names.reverse ++ (bodies.reverse ++ pk :: (ms.reverse ++ [k]))) xs :=
        opensFreely_of_inert (List.ne_nil_of_mem hnames.mem) (hnames.inert hmemnames)
      simpa using hname
    -- The last `END` is no name of a package, even if a member ends right before it.
    have hother : e.text ≠ name.text :=
      text_ne_of_blockEnd he (List.mem_filter.1 hmeme).1
        (List.mem_filter.1 (hmemnames name hnames.mem)).1 hnames.isNamePart
    have hnever : NeverEnds name.text (xs ++ [e]) :=
      List.isChain_append.2 ⟨hends, by simp, fun t _ u hu _ => by cases hu; exact hother⟩
    obtain ⟨d, hd, hbody⟩ := hxs.passes (List.forall_mem_append.1 hsigxs).2 hfree
      (endsWithName_of_neverEnds hnever hsigxs)
    have hcontrol : ∀ t ∈ (closing :: after).head?, t.keyword ≠ .control := by
      intro t ht
      cases ht
      rcases hnext with h | h
      · simp [h]
      · rwa [h]
    have hlist : k :: (ms ++ pk :: (bodies ++ (names ++ (xs ++ [e])))) =
        k :: (ms ++ (pk :: bodies ++ names)) ++ (xs ++ [e]) := by simp
    rw [hlist, cursorsBetween_append, cursorsBetween_append, List.append_assoc,
      List.singleton_append]
    refine hhead.append (hbody.append
      (passes_closesPackage hd (closesBlock_of_head? _ he hcontrol hafter) ?_))
    rw [List.nil_append, following?_of_significant _ _ hafter]
    simp [hclosing]

/-- The semicolon behind the `END` with the last part of the name of a package ends its statement,
and nothing before it does. What follows is cut as a script of its own. -/
theorem cutAt_of_package {package : List Token} {closing mark : Token}
    (hsource : significant (tokens script) = package ++ closing :: mark :: rest)
    (hpackage : IsPackage name package (closing :: mark :: rest))
    (hclosing : closing.text = name.text) (hmark : mark.kind = .terminator)
    (hslash : ∀ t ∈ rest.head?, t.kind ≠ .separator) :
    ∃ first others, tokens script = first ++ mark :: others ∧
      significant first = package ++ [closing] ∧ significant others = rest ∧
      CutAt first mark others := by
  have hmem : ∀ t ∈ package ++ closing :: mark :: rest, t ∈ significant (tokens script) :=
    fun t ht => hsource ▸ ht
  simp only [List.forall_mem_append, List.forall_mem_cons] at hmem
  obtain ⟨hmempackage, hmemclosing, hmemmark, hmemrest⟩ := hmem
  obtain ⟨hnamemem, hpart⟩ := hpackage.isNamePart
  have hmemname := hmempackage name hnamemem
  have hsig : ∀ t ∈ mark :: rest, t.isSignificant = true :=
    List.forall_mem_cons.2 ⟨isSignificant_of_mem_significant hmemmark,
      fun t ht => isSignificant_of_mem_significant (hmemrest t ht)⟩
  have hkeyword := keyword_of_text_eq (List.mem_filter.1 hmemclosing).1
    (List.mem_filter.1 hmemname).1 hpart hclosing
  have hcontent : content closing.text ≠ [] := by
    rw [hclosing, ne_eq, content_text_eq_nil_iff (List.mem_filter.1 hmemname).1]
    rcases hpart.kind with hk | hk <;> simp [hk, Lexer.blankKinds]
  have hinert : Inert closing (mark :: rest) := by
    apply inert_of_content hmemclosing hcontent
    rcases hkeyword with h | h
    · simp [h]
    · rw [h]
      exact hpart.keyword
  have hwords : Items .words [closing] (mark :: rest) := .inert hinert .nil
  have hpass := hpackage.passes hmempackage hclosing hkeyword
    (List.forall_mem_cons.2 ⟨hinert.isSignificant, hsig⟩)
  have hsolid : ∀ t ∈ package ++ [closing], t.kind ≠ .separator :=
    List.forall_mem_append.2 ⟨fun t ht => (hpackage.isSolid hmempackage t ht).not_separator,
      by simpa using hinert.not_separator⟩
  apply cutAt_of_significant (by simpa using hsource) hmark hsolid hslash
  rw [cursorsBetween_append]
  exact hpass.append (hwords.passes_words hsig)

open Token in
theorem cutAt_of_package_of_body :
    ∃ first others,
      tokens "CREATE PACKAGE BODY a.b AS FUNCTION f; BEGIN x; END b; y".toList =
        first ++ semicolon :: others ∧
      significant first =
        significant (tokens "CREATE PACKAGE BODY a.b AS FUNCTION f; BEGIN x; END b".toList) ∧
      significant others = [ofWord "y"] ∧ CutAt first semicolon others := by
  have hpart {s : String} (hs : (ofWord s).keyword ∉
      [.blockBegin, .blockEnd, .caseOpen, .create, .declare, .routine]) : IsNamePart (ofWord s) :=
    ⟨.inl rfl, hs⟩
  have hnames : DottedName [ofWord "a", ⟨.other, ['.']⟩, ofWord "b"] (ofWord "b") :=
    .cons (hpart (by decide +kernel)) rfl (.last (hpart (by decide +kernel)))
  have hmembers : Members ([ofWord "AS"] ++ ofWord "FUNCTION" :: [ofWord "f", semicolon])
      (ofWord "BEGIN" :: ([ofWord "x", semicolon] ++
        [ofWord "END", ofWord "b", semicolon, ofWord "y"])) :=
    .word (.inert (inert_ofWord (by decide +kernel)) .nil) (by decide +kernel)
      (.items (.inert (inert_ofWord (by decide +kernel)) (.semicolon rfl rfl .nil)))
  have hpackage : IsPackage (ofWord "b") (ofWord "CREATE" :: ([] ++ ofWord "PACKAGE" ::
      ([ofWord "BODY"] ++ ([ofWord "a", ⟨.other, ['.']⟩, ofWord "b"] ++
        (([ofWord "AS"] ++ ofWord "FUNCTION" :: [ofWord "f", semicolon]) ++
          ofWord "BEGIN" :: [ofWord "x", semicolon] ++ [ofWord "END"])))))
      [ofWord "b", semicolon, ofWord "y"] :=
    .mk (by decide +kernel) (by simp) (by decide +kernel) (by decide +kernel) hnames
      (by decide +kernel) (by decide +kernel)
      (.initialized hmembers ⟨by decide +kernel, by decide +kernel⟩
        (.inert (inert_ofWord (by decide +kernel)) (.semicolon rfl rfl .nil)))
      (by decide +kernel) (by rw [NeverEnds]; decide +kernel) (by decide +kernel)
  have hsource : significant
      (tokens "CREATE PACKAGE BODY a.b AS FUNCTION f; BEGIN x; END b; y".toList) =
        (ofWord "CREATE" :: ([] ++ ofWord "PACKAGE" ::
          ([ofWord "BODY"] ++ ([ofWord "a", ⟨.other, ['.']⟩, ofWord "b"] ++
            (([ofWord "AS"] ++ ofWord "FUNCTION" :: [ofWord "f", semicolon]) ++
              ofWord "BEGIN" :: [ofWord "x", semicolon] ++ [ofWord "END"]))))) ++
          ofWord "b" :: semicolon :: [ofWord "y"] := by
    decide +kernel
  obtain ⟨first, others, hscript, hfirst, hothers, hcut⟩ :=
    cutAt_of_package hsource hpackage rfl rfl (by decide +kernel)
  exact ⟨first, others, hscript, hfirst.trans (by decide +kernel), hothers, hcut⟩

end SqlScript
