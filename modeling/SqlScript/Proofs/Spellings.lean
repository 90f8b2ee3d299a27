import SqlScript.Proofs.Excerpts
import SqlScript.Proofs.LookAhead
import SqlScript.Proofs.Packages
import SqlScript.Proofs.Parallel

namespace SqlScript

open Nesting

/-- The texts belong to a pair of tokens. -/
def Spelled (R : Token → Token → Prop) (a a' : List Char) : Prop :=
  ∃ t u, R t u ∧ t.text = a ∧ u.text = a'

/-- The tokens of a pair are the same to a run, and so is which texts are the same. -/
structure Respelling (R : Token → Token → Prop) : Prop where
  kind : ∀ t u, R t u → t.kind = u.kind
  capitals : ∀ t u, R t u → t.capitals = u.capitals
  newline : ∀ t u, R t u → t.isSignificant = false → t.hasNewline = u.hasNewline
  dot : ∀ t u, R t u → (t.text = ['.'] ↔ u.text = ['.'])
  faithful : Faithful (Spelled R)

/-- The cursors stand among paired tokens. -/
structure Cursor.Paired (R : Token → Token → Prop) (c d : Cursor) : Prop where
  before : List.Forall₂ R c.before d.before
  token : R c.token d.token
  after : List.Forall₂ R c.after d.after

/-- The tokens are the same but for the case of the letters of words, and words that are the same in
one list are the same in the other. -/
structure SameButCase (first second : List Token) : Prop where
  alike : List.Forall₂ (fun t u => t.kind = u.kind ∧
    if t.kind = .word then Text.upper t.text = Text.upper u.text else t.text = u.text) first second
  repeats : ∀ p ∈ first.zip second, ∀ q ∈ first.zip second, p.1.kind = .word → q.1.kind = .word →
    (p.1.text = q.1.text ↔ p.2.text = q.2.text)

variable {R : Token → Token → Prop} {t u name name' : Token} {xs ys before before' : List Token}
  {c d : Cursor} {o o' : Option Token} {p : Token → Bool}

theorem rel_find? (hp : ∀ t u, R t u → p t = p u) (h : List.Forall₂ R xs ys) :
    Option.Rel R (xs.find? p) (ys.find? p) := by
  induction h with
  | nil => exact .none
  | @cons t u xs ys htu _ ih =>
    rw [List.find?_cons, List.find?_cons, hp t u htu]
    split
    · exact .some htu
    · exact ih

theorem forall₂_dropWhile (hp : ∀ t u, R t u → p t = p u) (h : List.Forall₂ R xs ys) :
    List.Forall₂ R (xs.dropWhile p) (ys.dropWhile p) := by
  induction h with
  | nil => exact .nil
  | @cons t u xs ys htu hxs ih =>
    rw [List.dropWhile_cons, List.dropWhile_cons, hp t u htu]
    split
    · exact ih
    · exact .cons htu hxs

theorem all_of_rel (hp : ∀ t u, R t u → p t = p u) (h : Option.Rel R o o') :
    o.all p = o'.all p := by
  cases h with
  | some htu => exact hp _ _ htu
  | none => rfl

theorem any_of_rel (hp : ∀ t u, R t u → p t = p u) (h : Option.Rel R o o') :
    o.any p = o'.any p := by
  cases h with
  | some htu => exact hp _ _ htu
  | none => rfl

theorem forall₂_cursorsFrom (hbefore : List.Forall₂ R before before') (h : List.Forall₂ R xs ys) :
    List.Forall₂ (Cursor.Paired R) (cursorsFrom before xs) (cursorsFrom before' ys) := by
  induction h generalizing before before' with
  | nil => exact .nil
  | cons htu hxs ih => exact .cons ⟨hbefore, htu, hxs⟩ (ih (.cons htu hbefore))

namespace Respelling

variable (hR : Respelling R)
include hR

theorem keyword (h : R t u) : t.keyword = u.keyword := by
  rw [Token.keyword, Token.keyword, hR.capitals t u h]

theorem isSignificant (h : R t u) : t.isSignificant = u.isSignificant := by
  rw [Token.isSignificant, Token.isSignificant, Token.isComment, Token.isComment, hR.kind t u h]

theorem following? (h : Cursor.Paired R c d) : Option.Rel R c.following? d.following? :=
  rel_find? (fun _ _ => hR.isSignificant) h.after

theorem preceding? (h : Cursor.Paired R c d) : Option.Rel R c.preceding? d.preceding? :=
  rel_find? (fun _ _ => hR.isSignificant) h.before

theorem startsLine (h : List.Forall₂ R xs ys) : Cursor.startsLine xs = Cursor.startsLine ys := by
  induction h with
  | nil => rfl
  | @cons t u xs ys htu _ ih =>
    rw [Cursor.startsLine, Cursor.startsLine, ← hR.isSignificant htu, ← hR.kind t u htu, ih]
    split
    · rfl
    · next ht => rw [hR.newline t u htu (by simpa using ht)]

theorem lastPart (hname : R name name') (h : List.Forall₂ R xs ys) :
    R (Cursor.lastPart name xs) (Cursor.lastPart name' ys) := by
  fun_induction Cursor.lastPart name xs generalizing name' ys with
  | case1 name dot part rest hdot ih =>
    rcases h with _ | ⟨hdots, _ | ⟨hpart, hrest⟩⟩
    rw [Cursor.lastPart, if_pos ((hR.dot _ _ hdots).1 hdot)]
    exact ih hpart hrest
  | case2 name dot part rest hdot =>
    rcases h with _ | ⟨hdots, _ | ⟨hpart, hrest⟩⟩
    rw [Cursor.lastPart, if_neg fun hdot' => hdot ((hR.dot _ _ hdots).2 hdot')]
    exact hname
  | case3 rest name hrest =>
    rcases h with _ | ⟨hdots, _ | ⟨hpart, hmore⟩⟩
    · exact hname
    · exact hname
    · exact absurd rfl (hrest _ _ _)

theorem object (h : Cursor.Paired R c d) : List.Forall₂ R c.object d.object := by
  have hfilter : List.Forall₂ R (significant c.after) (significant d.after) :=
    List.rel_filter (fun t u htu => by simp [hR.isSignificant htu]) h.after
  exact forall₂_dropWhile (fun t u htu => by rw [hR.keyword htu]) hfilter

theorem createsTypeBody (h : Cursor.Paired R c d) : c.createsTypeBody = d.createsTypeBody := by
  have hobject := hR.object h
  rw [Cursor.createsTypeBody, Cursor.createsTypeBody]
  generalize c.object = xs at hobject
  generalize d.object = ys at hobject
  rcases hobject with _ | ⟨htu, _ | ⟨hbody, _⟩⟩
  · rfl
  · rfl
  · simp only [hR.keyword htu, hR.keyword hbody]

theorem packageName? (h : Cursor.Paired R c d) :
    Option.Rel (Spelled R) c.packageName? d.packageName? := by
  have hobject := hR.object h
  rw [Cursor.packageName?, Cursor.packageName?]
  generalize c.object = xs at hobject
  generalize d.object = ys at hobject
  rcases hobject with _ | @⟨t, u, xs, ys, htu, hrest⟩
  · exact .none
  have hnames := forall₂_dropWhile (p := fun t => [.modifier, .package, .body].contains t.keyword)
    (fun t u htu => by rw [hR.keyword htu]) hrest
  simp only [hR.keyword htu]
  generalize xs.dropWhile _ = names at hnames
  generalize ys.dropWhile _ = names' at hnames
  split
  · rcases hnames with _ | ⟨hname, hparts⟩
    · exact .none
    · exact .some ⟨_, _, hR.lastPart hname hparts, rfl, rfl⟩
  · exact .none

theorem opensBegin (h : Cursor.Paired R c d) : c.opensBegin = d.opensBegin := by
  rw [Cursor.opensBegin, Cursor.opensBegin, hR.keyword h.token]
  congr 1
  apply all_of_rel ?_ (hR.following? h)
  intro t u htu
  rw [hR.kind t u htu, hR.keyword htu]

theorem opensCase (h : Cursor.Paired R c d) : c.opensCase = d.opensCase := by
  rw [Cursor.opensCase, Cursor.opensCase, hR.keyword h.token]
  congr 1
  apply all_of_rel ?_ (hR.preceding? h)
  intro t u htu
  rw [hR.keyword htu]

theorem closesBlock (h : Cursor.Paired R c d) : c.closesBlock = d.closesBlock := by
  rw [Cursor.closesBlock, Cursor.closesBlock, hR.keyword h.token]
  congr 1
  apply all_of_rel ?_ (hR.following? h)
  intro t u htu
  rw [hR.keyword htu]

theorem isCreated (h : Cursor.Paired R c d) : c.isCreated = d.isCreated := by
  apply any_of_rel ?_ (rel_find? ?_ h.before)
  · intro t u htu
    rw [hR.keyword htu]
  · intro t u htu
    rw [hR.keyword htu, hR.isSignificant htu]

theorem isMethod (h : Cursor.Paired R c d) : c.isMethod = d.isMethod := by
  apply any_of_rel ?_ (hR.preceding? h)
  intro t u htu
  rw [hR.keyword htu]

theorem isQuotedBody (h : Cursor.Paired R c d) : c.isQuotedBody = d.isQuotedBody := by
  rw [Cursor.isQuotedBody, Cursor.isQuotedBody, hR.kind _ _ h.token]
  congr 1
  apply any_of_rel ?_ (hR.preceding? h)
  intro t u htu
  rw [hR.keyword htu]

theorem isTerminator (h : Cursor.Paired R c d) : c.isTerminator = d.isTerminator := by
  rw [Cursor.isTerminator, Cursor.isTerminator, Cursor.isSeparator, Cursor.isSeparator,
    hR.kind _ _ h.token, hR.startsLine h.before]
  congr 2
  apply all_of_rel ?_ (hR.following? h)
  intro t u htu
  rw [hR.kind t u htu]

theorem packageName?_eq_none_iff (h : Cursor.Paired R c d) :
    c.packageName? = none ↔ d.packageName? = none := by
  have hnames := hR.packageName? h
  generalize c.packageName? = name at hnames
  generalize d.packageName? = name' at hnames
  cases hnames <;> simp

theorem describes_iff (h : Cursor.Paired R c d) {r : Role}
    (hpackage : ∀ name, r ≠ .createsPackage name) (hcloses : ∀ next, r ≠ .closes next) :
    r.Describes c ↔ r.Describes d := by
  cases r with
  | createsPackage name => exact absurd rfl (hpackage name)
  | closes next => exact absurd rfl (hcloses next)
  | _ => simp only [Role.Describes, Cursor.opensBlock, hR.kind _ _ h.token, hR.keyword h.token,
      hR.opensBegin h, hR.opensCase h, hR.createsTypeBody h, hR.packageName?_eq_none_iff h,
      hR.isCreated h, hR.isMethod h, hR.isQuotedBody h, hR.closesBlock h, hR.isTerminator h]

/-- Tokens in the same place of paired lists do the same. -/
theorem ofCursor (h : Cursor.Paired R c d) :
    Role.Alike (Spelled R) (Role.ofCursor c) (Role.ofCursor d) := by
  have hr := Role.describes_ofCursor c
  by_cases hnamed : (∀ name, Role.ofCursor c ≠ .createsPackage name) ∧
      ∀ next, Role.ofCursor c ≠ .closes next
  · obtain ⟨hpackage, hcloses⟩ := hnamed
    have hd := (hR.describes_iff h hpackage hcloses).1 hr
    rw [Role.ofCursor_of_describes hd]
    exact .same hpackage hcloses
  generalize Role.ofCursor c = r at hr hnamed
  cases r with
  | createsPackage name =>
    obtain ⟨hcreate, hname⟩ := hr
    have hnames := hR.packageName? h
    rw [hname] at hnames
    generalize hname' : d.packageName? = found at hnames
    cases hnames with
    | some hspelled =>
      rw [Role.ofCursor_of_describes (r := .createsPackage _)
        ⟨hR.keyword h.token ▸ hcreate, hname'⟩]
      exact .createsPackage hspelled
  | closes next =>
    obtain ⟨hcloses, rfl⟩ := hr
    rw [Role.ofCursor_of_describes (r := .closes _) ⟨hR.closesBlock h ▸ hcloses, rfl⟩]
    apply Role.Alike.closes
    have hfollowing := hR.following? h
    generalize c.following? = o at hfollowing
    generalize d.following? = o' at hfollowing
    cases hfollowing with
    | none => exact .none
    | some htu => exact .some ⟨_, _, htu, rfl, rfl⟩
  | _ => simp at hnamed

end Respelling

namespace Nesting

/-- The nestings are the same but for the name of the open package. -/
structure SameButName (pairs : List Char → List Char → Prop) (s s' : Nesting) : Prop where
  sameOpen : SameOpen pairs s s'
  inCreateOrAlter : s.inCreateOrAlter = s'.inCreateOrAlter
  placeholders : s.placeholders = s'.placeholders

variable {pairs : List Char → List Char → Prop} {s s' : Nesting} {r r' : Role}

theorem SameButName.step (hpairs : Faithful pairs) (h : SameButName pairs s s')
    (hr : Role.Alike pairs r r') :
    (s.step r).2 = (s'.step r').2 ∧ SameButName pairs (s.step r).1 (s'.step r').1 := by
  obtain ⟨hends, hopen⟩ := h.sameOpen.step hpairs hr
  refine ⟨hends, ?_⟩
  cases hr with
  | createsPackage => exact ⟨hopen, rfl, h.placeholders⟩
  | @closes next next' =>
    refine ⟨hopen, ?_, ?_⟩
    · rw [Nesting.step, Nesting.step, inCreateOrAlter_close, inCreateOrAlter_close,
        h.inCreateOrAlter]
    · rw [Nesting.step, Nesting.step, placeholders_close, placeholders_close, h.placeholders]
  | same hpackage hcloses =>
    cases r with
    | createsPackage name => exact absurd rfl (hpackage name)
    | closes next => exact absurd rfl (hcloses next)
    | createsTypeBody => exact ⟨hopen, rfl, h.placeholders⟩
    | createsOther => exact ⟨hopen, rfl, h.placeholders⟩
    | placeholder => exact ⟨hopen, h.inCreateOrAlter, congrArg (· + 1) h.placeholders⟩
    | terminator =>
      rw [Nesting.step, Nesting.step, h.sameOpen.canTerminate] at hopen ⊢
      split
      · next hcan =>
        rw [if_pos hcan, if_pos hcan] at hopen
        exact ⟨hopen, rfl, rfl⟩
      · exact h
    | _ => exact ⟨hopen, h.inCreateOrAlter, h.placeholders⟩

theorem forall₂_trace (hR : Respelling R) (h : List.Forall₂ R xs ys) :
    List.Forall₂ (fun o o' => o.2 = o'.2 ∧ SameButName (Spelled R) o.1 o'.1)
      (({} : Nesting).trace (cursors xs)) (({} : Nesting).trace (cursors ys)) := by
  have hstart : SameButName (Spelled R) {} {} := ⟨⟨rfl, rfl, .none⟩, rfl, rfl⟩
  have hroles : List.Forall₂ (Role.Alike (Spelled R)) ((cursors xs).map .ofCursor)
      ((cursors ys).map .ofCursor) := by
    rw [List.forall₂_map_left_iff, List.forall₂_map_right_iff]
    exact (forall₂_cursorsFrom .nil h).imp fun c d hcd => hR.ofCursor hcd
  rw [trace_eq_steps, trace_eq_steps]
  exact forall₂_steps (fun _ _ _ _ hs => hs.step hR.faithful) hstart hroles

end Nesting

section Lexemes

open Lexer Scan

variable {script script' first second : List Char} {v w : Token}

theorem eq_of_text_eq (ht : t ∈ tokens script) (hu : u ∈ tokens script') (hk : t.kind = .word)
    (h : t.text = u.text) : t = u := by
  have hread {script : List Char} {t : Token} (ht : t ∈ tokens script) :
      ∃ previous, next? previous t.text = some (t, []) := by
    obtain ⟨previous, s, rest, hnext⟩ := exists_next?_of_mem ht
    rw [← (text_append_of_next? hnext).1] at hnext
    have hshort := next?_of_head hnext (follows_of_isPrefix List.nil_prefix) (by simp)
    rw [List.append_nil] at hshort
    exact ⟨previous, hshort⟩
  obtain ⟨previous, hreadt⟩ := hread ht
  obtain ⟨previous', hreadu⟩ := hread hu
  have hbracket : t.text.head? = some '[' →
      previous.any takesSubscript = previous'.any takesSubscript := by
    intro hhead
    exact absurd (head?_of_word ht hk '[' hhead) (by decide)
  rw [next?_congr_previous hbracket, h, hreadu, Option.some.injEq, Prod.mk.injEq] at hreadt
  exact hreadt.1.symm

theorem text_ne_dot_of_word (ht : t ∈ tokens script) (hk : t.kind = .word) : t.text ≠ ['.'] := by
  intro h
  exact absurd (head?_of_word ht hk '.' (by simp [h])) (by decide)

theorem text_ne_of_word (ht : t ∈ tokens script) (hv : v ∈ tokens script) (hkt : t.kind = .word)
    (hkv : v.kind ≠ .word) : t.text ≠ v.text :=
  fun heq => hkv (eq_of_text_eq ht hv hkt heq ▸ hkt)

theorem SameButCase.kind_eq (h : SameButCase xs ys) (htu : (t, u) ∈ xs.zip ys) :
    t.kind = u.kind :=
  ((List.forall₂_iff_zip.1 h.alike).2 htu).1

theorem SameButCase.text_eq (h : SameButCase xs ys) (htu : (t, u) ∈ xs.zip ys)
    (hk : t.kind ≠ .word) : t.text = u.text := by
  have hsame := ((List.forall₂_iff_zip.1 h.alike).2 htu).2
  rwa [if_neg hk] at hsame

theorem SameButCase.capitals_eq (h : SameButCase xs ys) (htu : (t, u) ∈ xs.zip ys) :
    t.capitals = u.capitals := by
  obtain ⟨hkind, hsame⟩ := (List.forall₂_iff_zip.1 h.alike).2 htu
  rw [Token.capitals, Token.capitals, ← hkind]
  split
  · next hk =>
    rw [if_pos hk] at hsame
    rw [hsame]
  · rfl

theorem SameButCase.text_eq_iff (h : SameButCase (tokens first) (tokens second))
    (htu : (t, u) ∈ (tokens first).zip (tokens second))
    (hvw : (v, w) ∈ (tokens first).zip (tokens second)) : t.text = v.text ↔ u.text = w.text := by
  obtain ⟨ht, hu⟩ := List.of_mem_zip htu
  obtain ⟨hv, hw⟩ := List.of_mem_zip hvw
  have hku := h.kind_eq htu
  have hkw := h.kind_eq hvw
  by_cases hkt : t.kind = .word <;> by_cases hkv : v.kind = .word
  · exact h.repeats _ htu _ hvw hkt hkv
  · exact iff_of_false (text_ne_of_word ht hv hkt hkv)
      (text_ne_of_word hu hw (hku ▸ hkt) (hkw ▸ hkv))
  · exact iff_of_false (text_ne_of_word hv ht hkv hkt).symm
      (text_ne_of_word hw hu (hkw ▸ hkv) (hku ▸ hkt)).symm
  · rw [h.text_eq htu hkt, h.text_eq hvw hkv]

theorem SameButCase.respelling (h : SameButCase (tokens first) (tokens second)) :
    Respelling fun t u => (t, u) ∈ (tokens first).zip (tokens second) := by
  refine ⟨fun t u htu => h.kind_eq htu, fun t u htu => h.capitals_eq htu, ?_, ?_, ?_⟩
  · intro t u htu hlayout
    have hk : t.kind ≠ .word := by
      intro hk
      simp [Token.isSignificant, Token.isComment, hk] at hlayout
    rw [Token.hasNewline, Token.hasNewline, h.text_eq htu hk]
  · intro t u htu
    by_cases hk : t.kind = .word
    · have hk' : u.kind = .word := h.kind_eq htu ▸ hk
      simp [text_ne_dot_of_word (List.of_mem_zip htu).1 hk,
        text_ne_dot_of_word (List.of_mem_zip htu).2 hk']
    · rw [h.text_eq htu hk]
  · rintro _ _ _ _ ⟨t, u, htu, rfl, rfl⟩ ⟨v, w, hvw, rfl, rfl⟩
    exact h.text_eq_iff htu hvw

/-- Scripts that are the same but for the case of the letters of their words, and that repeat the
same words, are run alike: at each token a statement ends in both or in neither, and all is the same
behind it but the name of the open package. -/
theorem trace_of_sameButCase (h : SameButCase (tokens first) (tokens second)) :
    List.Forall₂ (fun o o' => o.2 = o'.2 ∧ o.1.depth = o'.1.depth ∧
        o.1.inHeader = o'.1.inHeader ∧ o.1.inPackage = o'.1.inPackage ∧
        o.1.inCreateOrAlter = o'.1.inCreateOrAlter ∧ o.1.placeholders = o'.1.placeholders)
      (({} : Nesting).trace (cursors (tokens first)))
      (({} : Nesting).trace (cursors (tokens second))) := by
  have hpairs : List.Forall₂ (fun t u => (t, u) ∈ (tokens first).zip (tokens second))
      (tokens first) (tokens second) :=
    List.forall₂_iff_zip.2 ⟨h.alike.length_eq, fun htu => htu⟩
  apply (forall₂_trace h.respelling hpairs).imp
  rintro o o' ⟨hends, hsame⟩
  exact ⟨hends, hsame.sameOpen.depth, hsame.sameOpen.inHeader, hsame.sameOpen.inPackage,
    hsame.inCreateOrAlter, hsame.placeholders⟩

theorem trace_of_sameButCase_of_package :
    SameButCase (tokens "create package Box as x int; end Box; select ?".toList)
        (tokens "CREATE Package box As X Int; End box; Select ?".toList) ∧
      List.Forall₂ (fun o o' => o.2 = o'.2 ∧ o.1.depth = o'.1.depth ∧
          o.1.inHeader = o'.1.inHeader ∧ o.1.inPackage = o'.1.inPackage ∧
          o.1.inCreateOrAlter = o'.1.inCreateOrAlter ∧ o.1.placeholders = o'.1.placeholders)
        (({} : Nesting).trace
          (cursors (tokens "create package Box as x int; end Box; select ?".toList)))
        (({} : Nesting).trace
          (cursors (tokens "CREATE Package box As X Int; End box; Select ?".toList))) := by
  have h : SameButCase (tokens "create package Box as x int; end Box; select ?".toList)
      (tokens "CREATE Package box As X Int; End box; Select ?".toList) :=
    ⟨by decide +kernel, by decide +kernel⟩
  exact ⟨h, trace_of_sameButCase h⟩

end Lexemes

end SqlScript
