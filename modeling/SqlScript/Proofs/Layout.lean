import SqlScript.Proofs.Runs

namespace SqlScript

/-- The tokens that are not layout. -/
def significant (tokens : List Token) : List Token :=
  tokens.filter (·.isSignificant)

@[simp] theorem significant_nil : significant [] = [] := rfl

@[simp] theorem significant_append (first second : List Token) :
    significant (first ++ second) = significant first ++ significant second :=
  List.filter_append _ _

theorem significant_cons (t : Token) (rest : List Token) :
    significant (t :: rest) =
      if t.isSignificant = true then t :: significant rest else significant rest :=
  List.filter_cons

theorem isSignificant_of_mem_significant {tokens : List Token} {t : Token}
    (h : t ∈ significant tokens) : t.isSignificant = true :=
  (List.mem_filter.1 h).2

theorem significant_eq_self {tokens : List Token} (h : ∀ t ∈ tokens, t.isSignificant = true) :
    significant tokens = tokens :=
  List.filter_eq_self.2 h

theorem significant_significant (tokens : List Token) :
    significant (significant tokens) = significant tokens :=
  significant_eq_self fun _ h => isSignificant_of_mem_significant h

theorem significant_eq_nil {tokens : List Token} (h : ∀ t ∈ tokens, t.isSignificant = false) :
    significant tokens = [] :=
  List.filter_eq_nil_iff.2 fun t ht => by simp [h t ht]

theorem isSignificant_of_significant_eq_nil {tokens : List Token} (h : significant tokens = []) :
    ∀ t ∈ tokens, t.isSignificant = false :=
  fun t ht => by simpa using List.filter_eq_nil_iff.1 h t ht

theorem significant_reverse (tokens : List Token) :
    significant tokens.reverse = (significant tokens).reverse :=
  List.filter_reverse ..

theorem exists_append_of_significant_eq {tokens pre rest : List Token} {t : Token}
    (h : significant tokens = pre ++ t :: rest) :
    ∃ first others, tokens = first ++ t :: others ∧ significant first = pre ∧
      significant others = rest := by
  obtain ⟨first, others, rfl, hfirst, hothers⟩ := List.filter_eq_append_iff.1 h
  obtain ⟨layout, others, rfl, hlayout, -, hrest⟩ := List.filter_eq_cons_iff.1 hothers
  have hnil : significant layout = [] :=
    significant_eq_nil fun u hu => by simpa using hlayout u hu
  refine ⟨first ++ layout, others, by simp, ?_, hrest⟩
  rw [significant_append, hnil, List.append_nil, significant, hfirst]

theorem dropWhile_append_cons {α : Type} {p : α → Bool} {a : α} (ha : p a = false)
    (init more : List α) : (init ++ a :: more).dropWhile p = init.dropWhile p ++ a :: more := by
  induction init with
  | nil => simp [ha]
  | cons b init ih => cases hb : p b <;> simp [hb, ih]

theorem Token.keyword_of_dot {t : Token} (h : t.text = ['.']) : t.keyword = .plain := by
  rw [keyword, capitals, h]
  split <;> decide

theorem Token.isSignificant_of_keyword_ne {t : Token} (h : t.keyword ≠ .plain) :
    t.isSignificant = true := by
  have hk := kind_of_keyword_ne h
  simp [isSignificant, isComment, hk]

theorem Token.isSignificant_of_terminator {t : Token} (h : t.kind = .terminator) :
    t.isSignificant = true := by
  simp [isSignificant, isComment, h]

namespace Cursor

variable {c : Cursor}

theorem following?_eq (c : Cursor) : c.following? = (significant c.after).head? :=
  (List.head?_filter ..).symm

theorem preceding?_eq (c : Cursor) : c.preceding? = (significant c.before).head? :=
  (List.head?_filter ..).symm

theorem isTerminator_of_last {before rest : List Token} {t : Token}
    (h : isTerminator ⟨before, t, []⟩ = true)
    (hslash : ∀ u ∈ (significant rest).head?, u.kind ≠ .separator) :
    isTerminator ⟨before, t, rest⟩ = true := by
  rw [isTerminator, Bool.or_eq_true, Bool.and_eq_true] at h ⊢
  refine h.imp id (And.imp id fun _ => ?_)
  rw [following?_eq]
  cases hrest : (significant rest).head? with
  | none => rfl
  | some u => simpa using hslash u hrest

/-- The cursor without the layout around its token. -/
def squeeze (c : Cursor) : Cursor :=
  ⟨significant c.before, c.token, significant c.after⟩

@[simp] theorem token_squeeze (c : Cursor) : c.squeeze.token = c.token := rfl

@[simp] theorem following?_squeeze (c : Cursor) : c.squeeze.following? = c.following? := by
  rw [following?_eq, following?_eq, squeeze, significant_significant]

@[simp] theorem preceding?_squeeze (c : Cursor) : c.squeeze.preceding? = c.preceding? := by
  rw [preceding?_eq, preceding?_eq, squeeze, significant_significant]

@[simp] theorem object_squeeze (c : Cursor) : c.squeeze.object = c.object := by
  have h : (significant (significant c.after)).dropWhile (·.keyword == .modifier) =
      (significant c.after).dropWhile (·.keyword == .modifier) := by
    rw [significant_significant]
  exact h

theorem find?_isSignificant_and (tokens : List Token) (q : Token → Bool) :
    tokens.find? (fun t => t.isSignificant && q t) = (significant tokens).find? q := by
  rw [significant, List.find?_filter]
  congr 1
  funext t
  cases t.isSignificant <;> simp

@[simp] theorem isCreated_squeeze (c : Cursor) : c.squeeze.isCreated = c.isCreated := by
  rw [isCreated, isCreated, find?_isSignificant_and, find?_isSignificant_and, squeeze,
    significant_significant]

/-- Nothing is in front of a token but layout, or layout after a mark. -/
def IsFresh (before : List Token) : Prop :=
  ∀ u ∈ (significant before).head?, u.kind = .terminator ∨ u.kind = .separator

theorem any_find?_append {p q : Token → Bool} (pre : List Token) {before : List Token}
    (hq : ∀ u ∈ before.find? p, q u = false) :
    ((pre ++ before).find? p).any q = (pre.find? p).any q := by
  rw [List.find?_append]
  cases pre.find? p with
  | some t => rfl
  | none =>
    cases hu : before.find? p with
    | none => rfl
    | some u => simpa using hq u hu

theorem all_find?_append {p q : Token → Bool} (pre : List Token) {before : List Token}
    (hq : ∀ u ∈ before.find? p, q u = true) :
    ((pre ++ before).find? p).all q = (pre.find? p).all q := by
  rw [List.find?_append]
  cases pre.find? p with
  | some t => rfl
  | none =>
    cases hu : before.find? p with
    | none => rfl
    | some u => simpa using hq u hu

theorem startsLine_append (pre : List Token) {before before' : List Token}
    (h : startsLine before = startsLine before') :
    startsLine (pre ++ before) = startsLine (pre ++ before') := by
  induction pre with
  | nil => exact h
  | cons t pre ih => simp only [List.cons_append, startsLine, ih]

theorem startsLine_of_terminator {before : List Token}
    (h : ∀ u ∈ (significant before).head?, u.kind = .terminator) : startsLine before = true := by
  induction before with
  | nil => rfl
  | cons u before ih =>
    rw [startsLine]
    by_cases hu : u.isSignificant = true
    · rw [if_pos hu, h u (by simp [significant_cons, hu])]
      rfl
    · rw [if_neg hu, ih fun v hv => h v (by simpa [significant_cons, hu] using hv), Bool.or_true]

theorem IsFresh.keyword {before : List Token} (hb : IsFresh before) :
    ∀ u ∈ (significant before).head?, u.keyword = .plain := by
  intro u hu
  rcases hb u hu with hk | hk <;> exact Token.keyword_of_kind_ne (by simp [hk])

theorem IsFresh.find?_eq {before : List Token} (hb : IsFresh before) {q : Token → Bool}
    (hq : ∀ u : Token, u.keyword = .plain → q u = true) :
    before.find? (fun t => t.isSignificant && q t) = before.find? (·.isSignificant) := by
  have hhead : before.find? (·.isSignificant) = (significant before).head? :=
    (List.head?_filter ..).symm
  rw [find?_isSignificant_and, hhead]
  cases hs : significant before with
  | nil => rfl
  | cons u rest => rw [List.find?_cons_of_pos (hq u (hb.keyword u (by simp [hs]))), List.head?_cons]

end Cursor

namespace Role

/-- Layout does not change what a token does, a slash apart. -/
theorem ofCursor_squeeze {c : Cursor} (h : c.token.kind ≠ .separator) :
    ofCursor c.squeeze = ofCursor c := by
  have hkeyword : ofKeyword c.squeeze = ofKeyword c := by
    simp [ofKeyword, Cursor.opensBegin, Cursor.opensCase, Cursor.createsTypeBody,
      Cursor.packageName?, Cursor.isMethod, Cursor.closesBlock]
  have hquoted : c.squeeze.isQuotedBody = c.isQuotedBody := by
    simp [Cursor.isQuotedBody]
  have hend : c.squeeze.isTerminator = c.isTerminator := by
    simp [Cursor.isTerminator, Cursor.isSeparator, beq_false_of_ne h]
  simp only [ofCursor, hkeyword, hquoted, hend, Cursor.token_squeeze]

/-- After a mark a token does what it does at the start of a script, if it is no slash or if it is
the first on its line in both places or in neither. -/
theorem ofCursor_append {pre before : List Token} (t : Token) (after : List Token)
    (hb : Cursor.IsFresh before) (hline : t.kind = .separator →
      Cursor.startsLine (pre ++ before) = Cursor.startsLine pre) :
    ofCursor ⟨pre ++ before, t, after⟩ = ofCursor ⟨pre, t, after⟩ := by
  have hfound : ∀ u ∈ before.find? (·.isSignificant), u.keyword = .plain := by
    intro u hu
    rw [← List.head?_filter] at hu
    exact hb.keyword u hu
  have hcase : Cursor.opensCase ⟨pre ++ before, t, after⟩ =
      Cursor.opensCase ⟨pre, t, after⟩ := by
    refine congrArg (t.keyword == .caseOpen && ·) (Cursor.all_find?_append pre fun u hu => ?_)
    simp [hfound u hu]
  have hcreated : Cursor.isCreated ⟨pre ++ before, t, after⟩ =
      Cursor.isCreated ⟨pre, t, after⟩ := by
    refine Cursor.any_find?_append pre fun u hu => ?_
    rw [hb.find?_eq fun v hv => by simp [hv]] at hu
    simp [hfound u hu]
  have hmethod : Cursor.isMethod ⟨pre ++ before, t, after⟩ =
      Cursor.isMethod ⟨pre, t, after⟩ :=
    Cursor.any_find?_append pre fun u hu => by simp [hfound u hu]
  have hquoted : Cursor.isQuotedBody ⟨pre ++ before, t, after⟩ =
      Cursor.isQuotedBody ⟨pre, t, after⟩ := by
    refine congrArg (t.kind == .stringLiteral && ·) (Cursor.any_find?_append pre fun u hu => ?_)
    simp [hfound u hu]
  have hend : Cursor.isTerminator ⟨pre ++ before, t, after⟩ =
      Cursor.isTerminator ⟨pre, t, after⟩ := by
    by_cases hk : t.kind = .separator
    · simp only [Cursor.isTerminator, Cursor.isSeparator, hline hk]
      rfl
    · simp only [Cursor.isTerminator, Cursor.isSeparator, beq_false_of_ne hk]
      rfl
  have hkeyword : ofKeyword ⟨pre ++ before, t, after⟩ = ofKeyword ⟨pre, t, after⟩ := by
    simp only [ofKeyword, hcase, hcreated, hmethod]
    rfl
  simp only [ofCursor, hkeyword, hquoted, hend]

end Role

end SqlScript
