import SqlScript.Proofs.Passages

namespace SqlScript

/-- A token that stands for itself: it neither separates statements nor opens or closes anything.
`CREATE` is one of these when it makes no package, type or routine. -/
structure Inert (t : Token) (rest : List Token) : Prop where
  isSignificant : t.isSignificant = true
  not_terminator : t.kind ≠ .terminator
  not_separator : t.kind ≠ .separator
  keyword : t.keyword ∉ [.blockBegin, .blockEnd, .caseOpen, .create, .declare, .routine] ∨
    t.keyword = .create ∧ ∀ u ∈ (rest.dropWhile (·.keyword == .modifier)).head?,
      u.keyword ∉ [.package, .objectType, .routine]

/-- `BEGIN`, and what follows does not make it the start of a transaction. -/
structure StartsBlock (b : Token) (rest : List Token) : Prop where
  keyword : b.keyword = .blockBegin
  rest : ∀ t ∈ rest.head?, t.kind ≠ .terminator ∧ t.kind ≠ .separator ∧ t.keyword ≠ .transaction

/-- `END`, and what follows makes it neither the end of a control statement nor an `END CASE`. -/
structure EndsBlock (e : Token) (rest : List Token) : Prop where
  keyword : e.keyword = .blockEnd
  rest : ∀ t ∈ rest.head?, t.keyword ≠ .control ∧ t.keyword ≠ .caseOpen

/-- What may stand among items beside tokens that do nothing. -/
structure Shape where
  semicolons : Bool
  blocks : Bool
  declarations : Bool

namespace Shape

/-- Nothing else. -/
def words : Shape := ⟨false, false, false⟩

/-- The declarations of a header, up to its body. -/
def header : Shape := ⟨true, false, false⟩

/-- A statement without declarations and with semicolons in its blocks only. -/
def line : Shape := ⟨false, true, false⟩

/-- The body of a block. -/
def body : Shape := ⟨true, true, false⟩

/-- The body of a block that may start with declarations of its own. -/
def compound : Shape := ⟨true, true, true⟩

/-- What may stand inside the blocks. -/
def inside (shape : Shape) : Shape :=
  { shape with semicolons := true }

end Shape

/-- The tokens make up items of a shape if the tokens `after` follow them. All tokens are
significant. -/
inductive Items : Shape → List Token → List Token → Prop
  | nil {shape after} : Items shape [] after
  | inert {shape t xs after} (ht : Inert t (xs ++ after)) (hxs : Items shape xs after) :
      Items shape (t :: xs) after
  | semicolon {shape t xs after} (hshape : shape.semicolons = true) (ht : t.kind = .terminator)
      (hxs : Items shape xs after) : Items shape (t :: xs) after
  | endControl {shape e u xs after} (hshape : shape.blocks = true) (he : e.keyword = .blockEnd)
      (hu : u.keyword = .control) (hxs : Items shape xs after) : Items shape (e :: u :: xs) after
  | block {shape o ys e xs after} (hshape : shape.blocks = true)
      (ho : StartsBlock o (ys ++ e :: (xs ++ after)) ∨ o.keyword = .caseOpen)
      (hys : Items shape.inside ys (e :: (xs ++ after))) (he : EndsBlock e (xs ++ after))
      (hxs : Items shape xs after) : Items shape (o :: (ys ++ e :: xs)) after
  | caseStatement {shape k ys e l xs after} (hshape : shape.blocks = true)
      (hk : k.keyword = .caseOpen) (hys : Items shape.inside ys (e :: l :: (xs ++ after)))
      (he : e.keyword = .blockEnd) (hl : l.keyword = .caseOpen) (hxs : Items shape xs after) :
      Items shape (k :: (ys ++ e :: l :: xs)) after
  | declaration {shape d ws t xs after} (hshape : shape.declarations = true)
      (hsemicolons : shape.semicolons = true) (hd : d.keyword = .declare)
      (hws : Items .words ws (t :: (xs ++ after))) (ht : t.kind = .terminator)
      (hxs : Items shape xs after) : Items shape (d :: (ws ++ t :: xs)) after

variable {shape : Shape} {t : Token} {before xs after rest : List Token} {d : Nat} {h : Bool}
  {p : Option (List Char)}

theorem Items.forall_mem {P : Token → Prop} (hinert : ∀ t rest, Inert t rest → P t)
    (hmark : ∀ t : Token, t.kind = .terminator → P t)
    (hword : ∀ t : Token, t.keyword ∈ [.blockBegin, .blockEnd, .caseOpen, .control] → P t)
    (hdeclare : shape.declarations = true → ∀ t : Token, t.keyword = .declare → P t)
    (hxs : Items shape xs after) : ∀ t ∈ xs, P t := by
  induction hxs with
  | nil => simp
  | inert ht _ ih => exact List.forall_mem_cons.2 ⟨hinert _ _ ht, ih hdeclare⟩
  | semicolon _ ht _ ih => exact List.forall_mem_cons.2 ⟨hmark _ ht, ih hdeclare⟩
  | endControl _ he hu _ ih =>
    exact List.forall_mem_cons.2
      ⟨hword _ (by simp [he]), List.forall_mem_cons.2 ⟨hword _ (by simp [hu]), ih hdeclare⟩⟩
  | @block _ o _ _ _ _ _ ho _ he _ ihys ihxs =>
    have hopens : P o := ho.elim (fun h => hword o (by simp [h.keyword])) fun h =>
      hword o (by simp [h])
    simp only [List.forall_mem_cons, List.forall_mem_append]
    exact ⟨hopens, ihys hdeclare, hword _ (by simp [he.keyword]), ihxs hdeclare⟩
  | caseStatement _ hk _ he hl _ ihys ihxs =>
    simp only [List.forall_mem_cons, List.forall_mem_append]
    exact ⟨hword _ (by simp [hk]), ihys hdeclare, hword _ (by simp [he]), hword _ (by simp [hl]),
      ihxs hdeclare⟩
  | declaration hshape _ hd _ ht _ ihws ihxs =>
    simp only [List.forall_mem_cons, List.forall_mem_append]
    exact ⟨hdeclare hshape _ hd, ihws fun h => by simp [Shape.words] at h, hmark _ ht,
      ihxs hdeclare⟩

theorem Items.isSignificant (hxs : Items shape xs after) : ∀ t ∈ xs, t.isSignificant = true := by
  refine hxs.forall_mem (fun _ _ ht => ht.isSignificant)
    (fun _ => Token.isSignificant_of_terminator) (fun t ht => ?_) fun _ t ht => ?_
  · exact Token.isSignificant_of_keyword_ne fun hk => by simp [hk] at ht
  · exact Token.isSignificant_of_keyword_ne fun hk => by simp [hk] at ht

theorem Items.kind_ne_separator (hxs : Items shape xs after) :
    ∀ t ∈ xs, t.kind ≠ .separator := by
  have hword (t : Token) (hk : t.keyword ≠ .plain) : t.kind ≠ .separator := by
    rw [Token.kind_of_keyword_ne hk]
    decide
  refine hxs.forall_mem (fun _ _ ht => ht.not_separator) (fun t ht => by simp [ht])
    (fun t ht => hword t fun hk => by simp [hk] at ht)
    fun _ t ht => hword t fun hk => by simp [hk] at ht

theorem Items.keyword_ne_routine (hxs : Items shape xs after) :
    ∀ t ∈ xs, t.keyword ≠ .routine := by
  refine hxs.forall_mem (fun _ _ ht => ?_) (fun t ht => ?_) (fun t ht hk => by simp [hk] at ht)
    fun _ t ht => by simp [ht]
  · rcases ht.keyword with hk | ⟨hk, -⟩
    · simp_all
    · simp [hk]
  · simp [Token.keyword_of_kind_ne (t := t) (by simp [ht])]

theorem Items.keyword_ne_declare (hshape : shape.declarations = false)
    (hxs : Items shape xs after) : ∀ t ∈ xs, t.keyword ≠ .declare := by
  refine hxs.forall_mem (fun _ _ ht => ?_) (fun t ht => ?_) (fun t ht hk => by simp [hk] at ht)
    fun h => by simp [hshape] at h
  · rcases ht.keyword with hk | ⟨hk, -⟩
    · simp_all
    · simp [hk]
  · simp [Token.keyword_of_kind_ne (t := t) (by simp [ht])]

theorem following?_of_significant (before : List Token) (t : Token)
    (hrest : ∀ u ∈ rest, u.isSignificant = true) :
    Cursor.following? ⟨before, t, rest⟩ = rest.head? := by
  rw [Cursor.following?_eq, significant_eq_self hrest]

theorem StartsBlock.opensBegin {b : Token} (hb : StartsBlock b rest) (before : List Token)
    (hrest : ∀ u ∈ rest, u.isSignificant = true) :
    Cursor.opensBegin ⟨before, b, rest⟩ = true := by
  rw [Cursor.opensBegin, following?_of_significant before b hrest, hb.keyword]
  cases hr : rest.head? with
  | none => rfl
  | some t => simpa [and_assoc] using hb.rest t hr

theorem closesBlock_of_head? (before : List Token) {e : Token} (he : e.keyword = .blockEnd)
    (hnext : ∀ t ∈ rest.head?, t.keyword ≠ .control)
    (hrest : ∀ u ∈ rest, u.isSignificant = true) :
    Cursor.closesBlock ⟨before, e, rest⟩ = true := by
  rw [Cursor.closesBlock, following?_of_significant before e hrest, he]
  cases hr : rest.head? with
  | none => rfl
  | some t => simpa using hnext t hr

theorem Inert.keyword_ne (ht : Inert t rest) {k : Keyword}
    (hk : k ∈ [.blockBegin, .blockEnd, .caseOpen, .declare, .routine]) : t.keyword ≠ k := by
  rintro rfl
  rcases ht.keyword with hkey | ⟨hkey, -⟩
  · simp_all
  · simp [hkey] at hk

theorem Inert.ofCursor (ht : Inert t rest) (hrest : ∀ u ∈ rest, u.isSignificant = true)
    (hq : Cursor.isQuotedBody ⟨before, t, rest⟩ = false) :
    Role.ofCursor ⟨before, t, rest⟩ ∈ [.createsOther, .placeholder, .inert] := by
  have hcreate : t.keyword = .create →
      Cursor.createsTypeBody ⟨before, t, rest⟩ = false ∧
        Cursor.packageName? ⟨before, t, rest⟩ = none := by
    intro hk
    obtain ⟨-, hobject⟩ := ht.keyword.resolve_left (by simp [hk])
    have ho : Cursor.object ⟨before, t, rest⟩ = rest.dropWhile (·.keyword == .modifier) := by
      rw [Cursor.object, ← significant, significant_eq_self hrest]
    rw [Cursor.createsTypeBody, Cursor.packageName?, ho]
    cases hr : rest.dropWhile (·.keyword == .modifier) with
    | nil => simp
    | cons u others =>
      have hu := hobject u (by simp [hr])
      simp only [List.mem_cons, List.not_mem_nil, or_false, not_or] at hu
      cases others <;> simp [hu]
  have hr := Role.describes_ofCursor ⟨before, t, rest⟩
  generalize Role.ofCursor ⟨before, t, rest⟩ = r at hr
  cases r with
  | opensBegin => exact absurd (Cursor.keyword_of_opensBegin hr) (ht.keyword_ne (by simp))
  | opensCase => exact absurd (Cursor.keyword_of_opensCase hr) (ht.keyword_ne (by simp))
  | createsTypeBody => simp [Role.Describes, (hcreate hr.1).1] at hr
  | createsPackage => simp [Role.Describes, (hcreate hr.1).2] at hr
  | declares => exact absurd hr (ht.keyword_ne (by simp))
  | routine => exact absurd hr.1 (ht.keyword_ne (by simp))
  | closes => exact absurd (Cursor.keyword_of_closesBlock hr.1) (ht.keyword_ne (by simp))
  | quotedBody => simp [Role.Describes, hq] at hr
  | terminator =>
    rcases Cursor.kind_of_isTerminator hr with hk | hk
    · exact absurd hk ht.not_separator
    · exact absurd hk ht.not_terminator
  | createsOther => simp
  | placeholder => simp
  | inert => simp

open Nesting

theorem Inert.moves (ht : Inert t rest) (hrest : ∀ u ∈ rest, u.isSignificant = true) :
    Moves p d [⟨before, t, rest⟩] d := by
  cases hq : Cursor.isQuotedBody ⟨before, t, rest⟩ with
  | true => exact moves_quotedBody hq
  | false => exact moves_idle (ht.ofCursor hrest hq)

theorem ofCursor_endControl (before : List Token) {e u : Token} (he : e.keyword = .blockEnd)
    (hu : u.keyword = .control) (hrest : ∀ t ∈ u :: rest, t.isSignificant = true) :
    Role.ofCursor ⟨before, e, u :: rest⟩ = .inert ∧
      Role.ofCursor ⟨e :: before, u, rest⟩ = .inert := by
  have hopen : Cursor.closesBlock ⟨before, e, u :: rest⟩ = false := by
    rw [Cursor.closesBlock, following?_of_significant before e hrest]
    simp [hu]
  constructor
  · rw [Role.ofCursor_of_keyword (by simp [he]), Role.ofKeyword]
    simp [he, hopen]
  · rw [Role.ofCursor_of_keyword (by simp [hu]), Role.ofKeyword]
    simp [hu]

theorem ofCursor_endCase (before : List Token) {e l : Token} (he : e.keyword = .blockEnd)
    (hl : l.keyword = .caseOpen) (rest : List Token) :
    Role.ofCursor ⟨e :: before, l, rest⟩ ∈ [.createsOther, .placeholder, .inert] := by
  have hsige : e.isSignificant = true := Token.isSignificant_of_keyword_ne (by simp [he])
  have hcase : Cursor.opensCase ⟨e :: before, l, rest⟩ = false := by
    simp [Cursor.opensCase, Cursor.preceding?, hsige, he]
  rw [Role.ofCursor_of_keyword (by simp [hl]), Role.ofKeyword]
  simp only [hl, hcase]
  decide

/-- The nearest token before some items, if it is an `END`, is not followed by a `CASE`. -/
def OpensFreely (before xs : List Token) : Prop :=
  ∀ u ∈ (significant before).head?, u.keyword = .blockEnd → ∀ t ∈ xs.head?, t.keyword ≠ .caseOpen

theorem opensFreely_cons (before xs : List Token) {u : Token} (hu : u.isSignificant = true)
    (h : u.keyword = .blockEnd → ∀ t ∈ xs.head?, t.keyword ≠ .caseOpen) :
    OpensFreely (u :: before) xs := by
  intro v hv
  rw [significant_cons, if_pos hu, List.head?_cons, Option.mem_some_iff] at hv
  rwa [← hv]

theorem opensCase_of_opensFreely {k : Token} (hk : k.keyword = .caseOpen)
    (hbefore : OpensFreely before (k :: xs)) : Cursor.opensCase ⟨before, k, rest⟩ = true := by
  rw [Cursor.opensCase, Cursor.preceding?_eq, hk]
  cases hu : (significant before).head? with
  | none => rfl
  | some u =>
    have hend : u.keyword ≠ .blockEnd := fun he => hbefore u hu he k rfl hk
    simpa using hend

theorem moves_block {o e : Token} {ys : List Token}
    (ho : Moves p d [⟨before, o, ys ++ e :: rest⟩] (d + 1))
    (hys : Moves p (d + 1) (cursorsBetween (o :: before) ys (e :: rest)) (d + 1))
    (he : e.keyword = .blockEnd) (hnext : ∀ t ∈ rest.head?, t.keyword ≠ .control)
    (hrest : ∀ u ∈ rest, u.isSignificant = true)
    (hp : ∀ name ∈ p, Cursor.endsWithName ⟨ys.reverse ++ o :: before, e, rest⟩ name = false) :
    Moves p d (cursorsBetween before (o :: (ys ++ [e])) rest) d := by
  have hclose := moves_closes (closesBlock_of_head? _ he hnext hrest) hp (d := d)
  rw [cursorsBetween_cons, cursorsBetween_append, List.append_assoc]
  exact ho.cons (hys.append hclose)

theorem OpensFreely.left {ys : List Token} (h : OpensFreely before (xs ++ ys)) :
    OpensFreely before xs := by
  intro u hu he t ht
  exact h u hu he t (by simp [List.head?_append, Option.mem_def.1 ht])

/-- Wherever the tokens start freely in front of `after`, they end no statement and take the depth
from `d` back to `d`, if no `END` among them gives the name of the package. -/
def KeepsDepth (p : Option (List Char)) (d : Nat) (xs after : List Token) : Prop :=
  ∀ before, OpensFreely before xs →
    (∀ c ∈ cursorsBetween before xs after, ∀ name ∈ p, c.endsWithName name = false) →
      Moves p d (cursorsBetween before xs after) d

/-- The token is no layout, and if it is an `END`, no `CASE` stands in front of `xs`. -/
def LeavesFree (u : Token) (xs : List Token) : Prop :=
  u.isSignificant = true ∧ (u.keyword = .blockEnd → ∀ t ∈ xs.head?, t.keyword ≠ .caseOpen)

theorem leavesFree_of_keyword_ne {u : Token} (hu : u.isSignificant = true)
    (hk : u.keyword ≠ .blockEnd) (xs : List Token) : LeavesFree u xs :=
  ⟨hu, fun h => absurd h hk⟩

section KeepsDepth

variable {o e u : Token}

theorem keepsDepth_nil : KeepsDepth p d [] after :=
  fun _ _ _ => .nil

theorem KeepsDepth.append (front : List Token)
    (hitem : KeepsDepth p d (front ++ [u]) (xs ++ after)) (hxs : KeepsDepth p d xs after)
    (hlast : LeavesFree u xs) : KeepsDepth p d (front ++ u :: xs) after := by
  intro before hbefore hp
  rw [List.append_cons] at hbefore hp ⊢
  rw [cursorsBetween_append, List.reverse_concat] at hp ⊢
  exact (hitem before hbefore.left fun c hc => hp c (List.mem_append_left _ hc)).append
    (hxs _ (opensFreely_cons _ xs hlast.1 hlast.2) fun c hc => hp c (List.mem_append_right _ hc))

theorem keepsDepth_inert (ht : Inert t rest) (hrest : ∀ u ∈ rest, u.isSignificant = true) :
    KeepsDepth p d [t] rest :=
  fun _ _ _ => ht.moves hrest

theorem keepsDepth_semicolon (ht : t.kind = .terminator) (hd : 0 < d ∨ p.isSome = true) :
    KeepsDepth p d [t] rest :=
  fun _ _ _ => moves_mark (.inl ht) hd

theorem keepsDepth_endControl (he : e.keyword = .blockEnd) (hu : u.keyword = .control)
    (hrest : ∀ t ∈ u :: rest, t.isSignificant = true) : KeepsDepth p d [e, u] rest := by
  intro before _ _
  obtain ⟨hre, hru⟩ := ofCursor_endControl before he hu hrest
  exact (moves_idle (by simp [hre])).cons (moves_idle (by simp [hru]))

theorem keepsDepth_block {ys : List Token}
    (ho : ∀ before, OpensFreely before [o] → Moves p d [⟨before, o, ys ++ e :: rest⟩] (d + 1))
    (hlast : ∀ xs, LeavesFree o xs) (hys : KeepsDepth p (d + 1) ys (e :: rest))
    (he : e.keyword = .blockEnd) (hnext : ∀ t ∈ rest.head?, t.keyword ≠ .control)
    (hrest : ∀ u ∈ rest, u.isSignificant = true) :
    KeepsDepth p d (o :: (ys ++ [e])) rest := by
  intro before hbefore hp
  have ho' : OpensFreely before [o] := OpensFreely.left hbefore
  have hinside := hys (o :: before) (opensFreely_cons before ys (hlast ys).1 (hlast ys).2)
    fun c hc => hp c (by simp [cursorsBetween_cons, cursorsBetween_append, hc])
  exact moves_block (ho before ho') hinside he hnext hrest
    (hp _ (by simp [cursorsBetween_cons, cursorsBetween_append]))

theorem keepsDepth_caseStatement {k l : Token} {ys : List Token} (hk : k.keyword = .caseOpen)
    (hys : KeepsDepth p (d + 1) ys (e :: l :: rest)) (he : e.keyword = .blockEnd)
    (hl : l.keyword = .caseOpen) (hrest : ∀ u ∈ l :: rest, u.isSignificant = true) :
    KeepsDepth p d (k :: (ys ++ [e]) ++ [l]) rest := by
  have hsigk : k.isSignificant = true := Token.isSignificant_of_keyword_ne (by simp [hk])
  have hblock : KeepsDepth p d (k :: (ys ++ [e])) (l :: rest) :=
    keepsDepth_block (fun before hbefore => moves_opensCase (opensCase_of_opensFreely hk hbefore))
      (leavesFree_of_keyword_ne hsigk (by simp [hk])) hys he (by simp [hl]) hrest
  intro before hbefore hp
  have hbehind : (k :: (ys ++ [e])).reverse ++ before = e :: (ys.reverse ++ k :: before) := by
    simp
  have hidle := ofCursor_endCase (ys.reverse ++ k :: before) he hl rest
  rw [cursorsBetween_append, hbehind] at hp ⊢
  exact (hblock before hbefore.left fun c hc => hp c (List.mem_append_left _ hc)).append
    (moves_idle hidle)

theorem keepsDepth_declaration {ws : List Token} (hu : u.keyword = .declare)
    (hws : KeepsDepth p d ws (t :: rest)) (ht : t.kind = .terminator)
    (hd : 0 < d ∨ p.isSome = true) : KeepsDepth p d (u :: (ws ++ [t])) rest := by
  intro before _ hp
  have hsigu : u.isSignificant = true := Token.isSignificant_of_keyword_ne (by simp [hu])
  have hwords := hws (u :: before)
    (opensFreely_cons before ws hsigu fun h => by simp [hu] at h)
    fun c hc => hp c (by simp [cursorsBetween_cons, cursorsBetween_append, hc])
  rw [cursorsBetween_cons, cursorsBetween_append]
  exact (moves_declare hu).cons (hwords.append (moves_mark (.inl ht) hd))

end KeepsDepth

/-- Items end no statement and leave open what they find open, if the semicolons among them stand in
an open block or package. -/
theorem Items.keepsDepth (hxs : Items shape xs after) (hafter : ∀ t ∈ after, t.isSignificant = true)
    (hd : shape.semicolons = true → 0 < d ∨ p.isSome = true) : KeepsDepth p d xs after := by
  have hsig {shape : Shape} {xs after : List Token} (hxs : Items shape xs after)
      (hafter : ∀ t ∈ after, t.isSignificant = true) : ∀ t ∈ xs ++ after, t.isSignificant = true :=
    List.forall_mem_append.2 ⟨hxs.isSignificant, hafter⟩
  have hcons {t : Token} {rest : List Token} (ht : t.isSignificant = true)
      (hrest : ∀ u ∈ rest, u.isSignificant = true) : ∀ u ∈ t :: rest, u.isSignificant = true :=
    List.forall_mem_cons.2 ⟨ht, hrest⟩
  have hword {u : Token} {w : Keyword} (hu : u.keyword = w) (hw : w ≠ .plain) :
      u.isSignificant = true := Token.isSignificant_of_keyword_ne (by rwa [hu])
  have hmark {t : Token} (ht : t.kind = .terminator) : ∀ xs, LeavesFree t xs :=
    leavesFree_of_keyword_ne (Token.isSignificant_of_terminator ht)
      (by simp [Token.keyword_of_kind_ne (t := t) (by simp [ht])])
  -- The items of a block are run one level deeper, behind the word that opens it.
  induction hxs generalizing d with
  | nil => exact keepsDepth_nil
  | inert ht hxs ih =>
    exact (keepsDepth_inert ht (hsig hxs hafter)).append [] (ih hafter hd)
      (leavesFree_of_keyword_ne ht.isSignificant (ht.keyword_ne (by simp)) _)
  | semicolon hshape ht _ ih =>
    exact (keepsDepth_semicolon ht (hd hshape)).append [] (ih hafter hd) (hmark ht _)
  | @endControl _ e u _ _ _ he hu hxs ih =>
    have hsigu := hword hu (by simp)
    exact (keepsDepth_endControl he hu (hcons hsigu (hsig hxs hafter))).append [e] (ih hafter hd)
      (leavesFree_of_keyword_ne hsigu (by simp [hu]) _)
  | @block _ o ys e xs after _ ho hys he hxs ihys ihxs =>
    have hkey : o.keyword = .blockBegin ∨ o.keyword = .caseOpen := ho.imp_left (·.keyword)
    have hsigo : o.isSignificant = true := hkey.elim (hword · (by simp)) (hword · (by simp))
    have hsige := hword he.keyword (by simp)
    have hrest := hsig hxs hafter
    have hend := hcons hsige hrest
    have hopen (before : List Token) (hbefore : OpensFreely before [o]) :
        Moves p d [⟨before, o, ys ++ e :: (xs ++ after)⟩] (d + 1) :=
      ho.elim (fun hb => moves_opensBegin (hb.opensBegin before (hsig hys hend)))
        fun hk => moves_opensCase (opensCase_of_opensFreely hk hbefore)
    have hinside := ihys hend fun _ => .inl (Nat.succ_pos d)
    have hblock := keepsDepth_block hopen
      (leavesFree_of_keyword_ne hsigo (by rcases hkey with hk | hk <;> simp [hk])) hinside
      he.keyword (fun t ht => (he.rest t ht).1) hrest
    refine hblock.append (o :: ys) (ihxs hafter hd) ⟨hsige, fun _ t ht => ?_⟩
    exact (he.rest t (by simp [List.head?_append, Option.mem_def.1 ht])).2
  | @caseStatement _ k ys e l xs after _ hk hys he hl hxs ihys ihxs =>
    have hsigl := hword hl (by simp)
    have htail := hcons hsigl (hsig hxs hafter)
    have hinside := ihys (hcons (hword he (by simp)) htail) fun _ => .inl (Nat.succ_pos d)
    have hcase := (keepsDepth_caseStatement hk hinside he hl htail).append _ (ihxs hafter hd)
      (leavesFree_of_keyword_ne hsigl (by simp [hl]) _)
    rwa [List.cons_append, ← List.append_cons] at hcase
  | @declaration _ u ws t xs after _ hsemicolons hu hws ht hxs ihws ihxs =>
    have hrest := hcons (Token.isSignificant_of_terminator ht) (hsig hxs hafter)
    have hwords := ihws (d := d) hrest fun h => by simp [Shape.words] at h
    exact (keepsDepth_declaration hu hwords ht (hd hsemicolons)).append (u :: ws) (ihxs hafter hd)
      (hmark ht _)

/-- No string stands directly after `AS`. -/
def NoQuotedBody (xs : List Token) : Prop :=
  xs.IsChain fun a b => a.keyword = .bodyIntro → b.kind ≠ .stringLiteral

/-- The tokens may stand in a header, in front of its body: semicolons, the words of routines that
are declared in it, and tokens that do nothing. -/
def IsHeader : List Token → List Token → Prop
  | [], _ => True
  | t :: xs, after =>
    (Inert t (xs ++ after) ∨ t.kind = .terminator ∨ t.keyword = .routine) ∧ IsHeader xs after

theorem Items.isHeader (hblocks : shape.blocks = false) (hdeclarations : shape.declarations = false)
    (hxs : Items shape xs after) : IsHeader xs after := by
  induction hxs with
  | nil => trivial
  | inert ht _ ih => exact ⟨.inl ht, ih hblocks hdeclarations⟩
  | semicolon _ ht _ ih => exact ⟨.inr (.inl ht), ih hblocks hdeclarations⟩
  | endControl h => simp [hblocks] at h
  | block h => simp [hblocks] at h
  | caseStatement h => simp [hblocks] at h
  | declaration h => simp [hdeclarations] at h

theorem isHeader_append (xs ys after : List Token) :
    IsHeader (xs ++ ys) after ↔ IsHeader xs (ys ++ after) ∧ IsHeader ys after := by
  induction xs with
  | nil => simp [IsHeader]
  | cons t xs ih => simp [IsHeader, ih, and_assoc]

/-- A header stays open up to its body. -/
theorem IsHeader.passes {u : Token} (hxs : IsHeader xs after)
    (hsig : ∀ t ∈ u :: (xs ++ after), t.isSignificant = true) (hq : NoQuotedBody (u :: xs)) :
    Passes (Open d true p) (cursorsBetween (u :: before) xs after) (Open d true p) := by
  induction xs generalizing u before with
  | nil => exact .nil
  | cons t xs ih =>
    obtain ⟨ht, hxs⟩ := hxs
    obtain ⟨hut, hchain⟩ := List.isChain_cons_cons.1 hq
    have htail : ∀ v ∈ t :: (xs ++ after), v.isSignificant = true := fun v hv =>
      hsig v (List.mem_cons_of_mem u hv)
    have hquoted : Cursor.isQuotedBody ⟨u :: before, t, xs ++ after⟩ = false := by
      refine Bool.eq_false_iff.2 fun h => ?_
      rw [Cursor.isQuotedBody, Cursor.preceding?, List.find?_cons_of_pos (hsig u (by simp)),
        Bool.and_eq_true] at h
      exact hut (eq_of_beq h.2) (eq_of_beq h.1)
    have hstep : Passes (Open d true p) [⟨u :: before, t, xs ++ after⟩] (Open d true p) := by
      rcases ht with ht | ht | ht
      · exact passes_idle (ht.ofCursor (fun v hv => htail v (List.mem_cons_of_mem t hv)) hquoted)
      · exact passes_mark (.inl ht) (.inr (.inl rfl))
      · exact passes_routine ht (.inl rfl)
    exact hstep.cons (ih hxs htail hchain)

/-- A block of items of the given shape. -/
inductive IsBlock (shape : Shape) : List Token → List Token → Prop
  | mk {b ys e after} (hb : StartsBlock b (ys ++ e :: after)) (hys : Items shape ys (e :: after))
      (he : EndsBlock e after) : IsBlock shape (b :: (ys ++ [e])) after

theorem foldl_headerAfter_false {cs : List Cursor}
    (hcs : ∀ c ∈ cs, c.token.keyword ≠ .declare) : cs.foldl Cursor.headerAfter false = false := by
  induction cs with
  | nil => rfl
  | cons c cs ih =>
    have hc : c.headerAfter false = false := by
      have hr := Role.describes_ofCursor c
      rw [Cursor.headerAfter]
      generalize Role.ofCursor c = r at hr
      cases r with
      | declares => exact absurd hr (hcs c (by simp))
      | _ => rfl
    rw [List.foldl_cons, hc]
    exact ih fun c' hc' => hcs c' (by simp [hc'])

theorem token_mem_of_mem_cursorsBetween {c : Cursor} (hc : c ∈ cursorsBetween before xs after) :
    c.token ∈ xs := by
  induction xs generalizing before with
  | nil => simp at hc
  | cons t xs ih =>
    rcases List.mem_cons.1 hc with rfl | hc
    · simp
    · exact List.mem_cons_of_mem t (ih hc)

theorem Items.passes (hxs : Items shape xs after) (hshape : shape.declarations = false)
    (hafter : ∀ t ∈ after, t.isSignificant = true)
    (hd : shape.semicolons = true → 0 < d) (hbefore : OpensFreely before xs) :
    Passes (Open d false none) (cursorsBetween before xs after) (Open d false none) := by
  have hmoves := hxs.keepsDepth (p := none) hafter (fun h => .inl (hd h)) before hbefore (by simp)
    false
  rwa [foldl_headerAfter_false fun c hc =>
    hxs.keyword_ne_declare hshape _ (token_mem_of_mem_cursorsBetween hc)] at hmoves

theorem IsBlock.keyword_ne_declare {block : List Token} (hshape : shape.declarations = false)
    (hblock : IsBlock shape block after) : ∀ t ∈ block, t.keyword ≠ .declare := by
  obtain ⟨hb, hys, he⟩ := hblock
  simp only [List.forall_mem_cons, List.forall_mem_append]
  exact ⟨by simp [hb.keyword], hys.keyword_ne_declare hshape, by simp [he.keyword]⟩

theorem IsBlock.passes_shape {block : List Token} (hblock : IsBlock shape block after)
    (before : List Token) (hafter : ∀ t ∈ after, t.isSignificant = true) :
    Passes (Open d h none) (cursorsBetween before block after)
      (Open d ((cursorsBetween before block after).foldl Cursor.headerAfter false) none) := by
  obtain ⟨hb, hys, he⟩ := hblock
  rename_i b ys e
  have hbody : ∀ t ∈ e :: after, t.isSignificant = true :=
    List.forall_mem_cons.2 ⟨Token.isSignificant_of_keyword_ne (by simp [he.keyword]), hafter⟩
  have hbegin := hb.opensBegin before (List.forall_mem_append.2 ⟨hys.isSignificant, hbody⟩)
  have hsigb : b.isSignificant = true := Token.isSignificant_of_keyword_ne (by simp [hb.keyword])
  have hinside := hys.keepsDepth (p := none) (d := d + 1) hbody (fun _ => .inl (Nat.succ_pos d))
    _ (opensFreely_cons before ys hsigb fun h => by simp [hb.keyword] at h) (by simp)
  have hmoves := moves_block (p := none) (moves_opensBegin hbegin) hinside he.keyword
    (fun t ht => (he.rest t ht).1) hafter (by simp)
  have hfirst (h : Bool) : Cursor.headerAfter h ⟨before, b, ys ++ [e] ++ after⟩ = false :=
    Cursor.headerAfter_of_describes (r := .opensBegin) h (by simpa [Role.Describes] using hbegin)
  have hpass := hmoves h
  rwa [cursorsBetween_cons, List.foldl_cons, hfirst, ← hfirst false, ← List.foldl_cons,
    ← cursorsBetween_cons] at hpass

/-- A block is the body of the header in front of it, if there is one. -/
theorem IsBlock.passes {block : List Token} (hblock : IsBlock .body block after)
    (hafter : ∀ t ∈ after, t.isSignificant = true) :
    Passes (Open d h none) (cursorsBetween before block after) (Open d false none) := by
  have hpass := hblock.passes_shape (d := d) (h := h) before hafter
  rwa [foldl_headerAfter_false fun c hc =>
    hblock.keyword_ne_declare rfl _ (token_mem_of_mem_cursorsBetween hc)] at hpass

theorem opensFreely_words {ws : List Token} (hws : Items .words ws after) :
    OpensFreely before ws := by
  intro u _ _ t ht
  generalize hshape : Shape.words = shape at hws
  cases hws with
  | nil => simp at ht
  | inert hv _ =>
    cases ht
    exact hv.keyword_ne (by simp)
  | semicolon h => simp [← hshape, Shape.words] at h
  | endControl h => simp [← hshape, Shape.words] at h
  | block h => simp [← hshape, Shape.words] at h
  | caseStatement h => simp [← hshape, Shape.words] at h
  | declaration h => simp [← hshape, Shape.words] at h

theorem Items.passes_words {ws : List Token} (hws : Items .words ws after)
    (hafter : ∀ t ∈ after, t.isSignificant = true) :
    Passes (Open d false none) (cursorsBetween before ws after) (Open d false none) :=
  hws.passes rfl hafter (fun h => by simp [Shape.words] at h) (opensFreely_words hws)

end SqlScript
