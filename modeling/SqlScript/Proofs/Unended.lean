import SqlScript.Proofs.LookAhead
import SqlScript.Proofs.Outlines

namespace SqlScript

open Nesting

variable {before mid after after' gap layout ts us xs ys : List Token} {m t u : Token}
  {state state' : Nesting} {cs : List Cursor} {name : List Char}

theorem isTerminator_congr_after (h : Cursor.isTerminator ⟨before, u, after'⟩ = true)
    (hslash : ∀ m ∈ (significant after).head?, m.kind = .separator → u.kind ≠ .terminator) :
    Cursor.isTerminator ⟨before, u, after⟩ = true := by
  rw [Cursor.isTerminator, Bool.or_eq_true, Bool.and_eq_true] at h ⊢
  rcases h with h | ⟨hk, -⟩
  · exact .inl h
  · refine .inr ⟨hk, ?_⟩
    rw [Cursor.following?_eq, Option.all_eq_true]
    intro m hm
    simpa using fun hm' => hslash m hm hm' (eq_of_beq hk)

theorem packageName?_eq_or_staysOpen (h : StartsPlain after) (h' : StartsPlain after')
    (before mid : List Token) (t : Token) :
    Cursor.packageName? ⟨before, t, mid ++ after⟩ = Cursor.packageName? ⟨before, t, mid ++ after'⟩ ∨
      ∃ name, StaysOpen name (significant mid) ∧
        (Cursor.packageName? ⟨before, t, mid ++ after⟩ = some name ∨
          Cursor.packageName? ⟨before, t, mid ++ after'⟩ = some name) := by
  rcases packageName?_append before mid t with hname | ⟨hopen, hname⟩
  · exact .inl (by rw [hname _ h, hname _ h'])
  have hnone {after : List Token} (h : StartsPlain after)
      (hn : Cursor.packageName? ⟨before, t, mid ++ after⟩ = none) :
      Cursor.packageName? ⟨before, t, mid⟩ = none := by
    cases hsig : significant after with
    | nil =>
      rw [Cursor.packageName?, h.object_append, hsig, List.append_nil] at hn
      exact hn
    | cons m more => simp [hname after m more h hsig] at hn
  cases hn : Cursor.packageName? ⟨before, t, mid ++ after⟩ with
  | none =>
    cases hn' : Cursor.packageName? ⟨before, t, mid ++ after'⟩ with
    | none => exact .inl rfl
    | some name => exact .inr ⟨name, hopen name (.inr (hnone h hn)), .inr rfl⟩
  | some name =>
    cases hn' : Cursor.packageName? ⟨before, t, mid ++ after'⟩ with
    | none => exact .inr ⟨name, hopen name (.inr (hnone h' hn')), .inl rfl⟩
    | some name' =>
      by_cases hdot : name = ['.']
      · by_cases hdot' : name' = ['.']
        · exact .inl (by rw [hdot, hdot'])
        · exact .inr ⟨name', hopen name' (.inl hdot'), .inr rfl⟩
      · exact .inr ⟨name, hopen name (.inl hdot), .inl rfl⟩

theorem pass?_layout (hlayout : ∀ u ∈ layout, u.isSignificant = false) (state : Nesting)
    (before after : List Token) :
    state.pass? (cursorsBetween before layout after) = some state := by
  induction layout generalizing before with
  | nil => rfl
  | cons u layout ih =>
    obtain ⟨hu, hlayout⟩ := List.forall_mem_cons.1 hlayout
    rw [cursorsBetween_cons, pass?, step_of_layout state hu]
    exact ih hlayout (u :: before)

/-- In front of another significant token a token does the same whatever follows, or a package is
made whose name depends on it and which stays open. -/
theorem stepAt_eq_or_staysOpen (h : StartsPlain after) (h' : StartsPlain after')
    (hmid : significant mid ≠ []) (state : Nesting) (before : List Token) (u : Token) :
    state.stepAt ⟨before, u, mid ++ after⟩ = state.stepAt ⟨before, u, mid ++ after'⟩ ∨
      ∃ name, StaysOpen name (significant mid) ∧
        ((state.stepAt ⟨before, u, mid ++ after⟩).1.package = some name ∨
          (state.stepAt ⟨before, u, mid ++ after'⟩).1.package = some name ∧
            (state.stepAt ⟨before, u, mid ++ after'⟩).2 = false) := by
  have hfollowing : Cursor.following? ⟨before, u, mid ++ after⟩ =
      Cursor.following? ⟨before, u, mid ++ after'⟩ := by
    rw [Cursor.following?_eq, Cursor.following?_eq, significant_append, significant_append,
      List.head?_append_of_ne_nil _ hmid, List.head?_append_of_ne_nil _ hmid]
  have hbody : Cursor.createsTypeBody ⟨before, u, mid ++ after⟩ =
      Cursor.createsTypeBody ⟨before, u, mid ++ after'⟩ := by
    rw [h.createsTypeBody_append, h'.createsTypeBody_append]
  have hsame := ofCursor_congr hfollowing hbody
  by_cases hk : u.keyword = .create
  · rcases packageName?_eq_or_staysOpen h h' before mid u with hname | ⟨name, hopen, hname⟩
    · exact .inl (congrArg state.step (hsame fun _ => hname))
    · refine .inr ⟨name, hopen, ?_⟩
      rcases hname with hname | hname
      · left
        rw [stepAt_of_describes (r := .createsPackage name) ⟨hk, hname⟩]
        rfl
      · right
        rw [stepAt_of_describes (r := .createsPackage name) ⟨hk, hname⟩]
        exact ⟨rfl, rfl⟩
  · exact .inl (congrArg state.step (hsame fun hcreate => absurd hcreate hk))

theorem not_ends_of_congr_after (h : ¬ (state.stepAt ⟨before, u, after⟩).2 = true)
    (hslash : ∀ m ∈ (significant after).head?, m.kind = .separator → u.kind ≠ .terminator) :
    ¬ (state.stepAt ⟨before, u, after'⟩).2 = true := by
  intro hends
  obtain ⟨hcan, hrole⟩ := canTerminate_of_ends hends
  have hterm := isTerminator_congr_after (Role.ofCursor_eq_iff.1 hrole) hslash
  rw [stepAt_of_isTerminator hcan hterm] at h
  exact h rfl

theorem exists_pass?_of_startsPlain (h : StartsPlain after) (h' : StartsPlain after')
    (hslash : ∀ m ∈ (significant after).head?, m.kind = .separator →
      ∀ u ∈ (significant mid).getLast?, u.kind ≠ .terminator)
    (hpass : state.pass? (cursorsBetween before mid after) = some state')
    (hpackage : state'.package = none) :
    ∃ ending, state.pass? (cursorsBetween before mid after') = some ending := by
  induction mid generalizing state before with
  | nil => exact ⟨state, rfl⟩
  | cons u mid ih =>
    rw [cursorsBetween_cons, pass?, Option.ite_none_left_eq_some] at hpass
    obtain ⟨hends, hpass⟩ := hpass
    rw [cursorsBetween_cons, pass?]
    by_cases hu : u.isSignificant = true
    · rw [significant_cons, if_pos hu] at hslash
      by_cases hmid : significant mid = []
      · have hlayout := isSignificant_of_significant_eq_nil hmid
        rw [if_neg (not_ends_of_congr_after hends fun m hm hk => ?_)]
        · exact ⟨_, pass?_layout hlayout _ _ _⟩
        · rw [significant_append, hmid, List.nil_append] at hm
          exact hslash m hm hk u (by simp [hmid])
      · have hlast : ∀ m ∈ (significant after).head?, m.kind = .separator →
            ∀ v ∈ (significant mid).getLast?, v.kind ≠ .terminator := by
          intro m hm hk v hv
          refine hslash m hm hk v ?_
          rwa [← List.singleton_append, List.getLast?_append_of_ne_nil _ hmid]
        rcases stepAt_eq_or_staysOpen h h' hmid state before u with
          hstep | ⟨name, hopen, hmade | ⟨hmade, hquiet⟩⟩
        · rw [← hstep, if_neg hends]
          exact ih hlast hpass
        · -- The package would be open behind the tokens.
          obtain ⟨ending, hpass', hopen'⟩ := passes_staysOpen hopen (u :: before) after _ hmade
          rw [hpass] at hpass'
          cases hpass'
          rw [hpackage] at hopen'
          cases hopen'
        · obtain ⟨ending, hpass', -⟩ := passes_staysOpen hopen (u :: before) after' _ hmade
          rw [if_neg (by simp [hquiet])]
          exact ⟨ending, hpass'⟩
    · rw [significant_cons, if_neg hu] at hslash
      have hu' : u.isSignificant = false := by simpa using hu
      rw [step_of_layout state hu'] at hpass ⊢
      exact ih hslash hpass

theorem not_isTerminator_of_pass?
    (hpass : state.pass? (cursorsBetween before (xs ++ u :: gap) after) = some state')
    (hcan : state'.canTerminate = true) (hgap : ∀ v ∈ gap, v.isSignificant = false)
    (hslash : ∀ m ∈ (significant after).head?, m.kind = .separator → u.kind ≠ .terminator) :
    ¬ Cursor.isTerminator ⟨xs.reverse ++ before, u, after'⟩ = true := by
  intro hterm
  rw [cursorsBetween_append, pass?_append, Option.bind_eq_some_iff] at hpass
  obtain ⟨state, -, hpass⟩ := hpass
  rw [cursorsBetween_cons, pass?, Option.ite_none_left_eq_some, pass?_layout hgap,
    Option.some.injEq] at hpass
  have hterm' : Cursor.isTerminator ⟨xs.reverse ++ before, u, gap ++ after⟩ = true := by
    apply isTerminator_congr_after hterm
    rwa [significant_append, significant_eq_nil hgap, List.nil_append]
  obtain ⟨hends, rfl⟩ := hpass
  -- Nothing is open in front of the token either, so it would end a statement.
  rw [stepAt_of_mark (Cursor.kind_of_isTerminator hterm').symm hends] at hcan
  rw [stepAt_of_isTerminator hcan hterm'] at hends
  exact hends rfl

theorem cursorsFrom_append (before xs ys : List Token) :
    cursorsFrom before (xs ++ ys) =
      cursorsBetween before xs ys ++ cursorsFrom (xs.reverse ++ before) ys := by
  induction xs generalizing before with
  | nil => rfl
  | cons x xs ih => simp [cursorsFrom, cursorsBetween_cons, ih]

theorem cursors_append (xs ys : List Token) :
    cursors (xs ++ ys) = cursorsBetween [] xs ys ++ cursorsFrom xs.reverse ys := by
  rw [cursors, cursorsFrom_append, List.append_nil]

/-- No statement ends among the tokens, and the last one is no terminator. -/
structure Unended (ts : List Token) : Prop where
  pass : ∃ ending, ({} : Nesting).pass? (cursors ts) = some ending
  last : .terminator ∉ (significantRoles (cursors ts)).getLast?

theorem exists_pass?_iff (state : Nesting) (cs : List Cursor) :
    (∃ ending, state.pass? cs = some ending) ↔
      ∀ o ∈ state.steps (significantRoles cs), o.2 = false := by
  induction cs generalizing state with
  | nil => simp [pass?, significantRoles, Nesting.steps]
  | cons c cs ih =>
    rw [pass?, significantRoles_cons]
    by_cases hc : c.token.isSignificant = true
    · rw [if_pos hc, Nesting.steps, List.forall_mem_cons, ← ih]
      cases hends : (state.stepAt c).2 <;> simp [stepAt] at hends <;> simp [hends, stepAt]
    · rw [if_neg hc, step_of_layout state (by simpa using hc), ← ih]
      simp

/-- Whether statements end among some tokens is told by their outline. -/
theorem Unended.of_outline (h : Unended ts) (houtline : outline us = outline ts) : Unended us := by
  obtain ⟨hpass, hlast⟩ := h
  rw [exists_pass?_iff] at hpass
  have hroles : significantRoles (cursors us) = significantRoles (cursors ts) := by
    rw [significantRoles_cursors, significantRoles_cursors, houtline]
  rw [← hroles] at hpass hlast
  exact ⟨(exists_pass?_iff ..).2 hpass, hlast⟩

theorem significantRoles_append (first second : List Cursor) :
    significantRoles (first ++ second) = significantRoles first ++ significantRoles second := by
  rw [significantRoles, List.filter_append, List.map_append]
  rfl

theorem significantRoles_layout (hlayout : ∀ u ∈ layout, u.isSignificant = false)
    (before : List Token) : significantRoles (cursorsFrom before layout) = [] := by
  induction layout generalizing before with
  | nil => rfl
  | cons u layout ih =>
    obtain ⟨hu, hlayout⟩ := List.forall_mem_cons.1 hlayout
    rw [cursorsFrom, significantRoles_cons, if_neg (by simp [hu]), ih hlayout]

theorem getLast?_significantRoles (hu : u.isSignificant = true)
    (hgap : ∀ v ∈ gap, v.isSignificant = false) (xs : List Token) :
    (significantRoles (cursors (xs ++ u :: gap))).getLast? =
      some (Role.ofCursor ⟨xs.reverse, u, gap⟩) := by
  rw [cursors_append, significantRoles_append, cursorsFrom, significantRoles_cons, if_pos hu,
    significantRoles_layout hgap, List.getLast?_concat]

theorem unended_of_layout (hlayout : ∀ u ∈ layout, u.isSignificant = false) : Unended layout := by
  have hroles : significantRoles (cursors layout) = [] := significantRoles_layout hlayout []
  constructor
  · rw [exists_pass?_iff, hroles]
    simp [Nesting.steps]
  · simp [hroles]

/-- From the start of a script the tokens are passed, with nothing open behind them, and what
follows is out of sight. -/
structure Passed (mid after : List Token) : Prop where
  plain : StartsPlain after
  slash : ∀ m ∈ (significant after).head?, m.kind = .separator →
    ∀ u ∈ (significant mid).getLast?, u.kind ≠ .terminator
  pass : ∃ state, ({} : Nesting).pass? (cursorsBetween [] mid after) = some state ∧
    state.canTerminate = true

theorem package_of_canTerminate (h : state.canTerminate = true) : state.package = none := by
  simp only [canTerminate, inPackage, Bool.and_eq_true, Bool.not_eq_true'] at h
  exact Option.not_isSome_iff_eq_none.1 (by simp [h.2])

theorem startsPlain_nil : StartsPlain [] := by
  simp [StartsPlain]

/-- The tokens of a statement alone end none. -/
theorem Passed.unended (h : Passed mid after) : Unended mid := by
  obtain ⟨state, hpass, hcan⟩ := h.pass
  constructor
  · obtain ⟨ending, hending⟩ := exists_pass?_of_startsPlain h.plain startsPlain_nil h.slash hpass
      (package_of_canTerminate hcan)
    refine ⟨ending, ?_⟩
    have hcursors := cursors_append mid []
    rw [List.append_nil, cursorsFrom, List.append_nil] at hcursors
    rw [hcursors, hending]
  · rcases layout_or_exists_last mid with hlayout | ⟨xs, u, gap, rfl, hu, hgap⟩
    · exact (unended_of_layout hlayout).last
    · rw [getLast?_significantRoles hu hgap]
      intro hlast
      have hterm : Cursor.isTerminator ⟨xs.reverse ++ [], u, gap⟩ = true := by
        rw [List.append_nil]
        exact Role.ofCursor_eq_iff.1 (Option.mem_some_iff.1 hlast)
      refine not_isTerminator_of_pass? hpass hcan hgap (fun m hm hk => ?_) hterm
      refine h.slash m hm hk u ?_
      rw [significant_append_cons xs hu hgap, List.getLast?_concat]
      rfl

/-- A string or a quoted name. -/
structure IsLiteral (t : Token) : Prop where
  kind : t.kind = .stringLiteral ∨ t.kind = .quotedName
  text : t.text ≠ ['.']

theorem IsLiteral.isSignificant (h : IsLiteral t) : t.isSignificant = true := by
  rcases h.kind with hk | hk <;> simp [Token.isSignificant, Token.isComment, hk]

theorem IsLiteral.startsPlain (h : IsLiteral t) (more : List Token) : StartsPlain (t :: more) := by
  intro u hu
  rw [significant_cons, if_pos h.isSignificant] at hu
  cases hu
  refine ⟨Token.keyword_of_kind_ne ?_, h.text⟩
  rcases h.kind with hk | hk <;> simp [hk]

theorem IsLiteral.ofCursor (h : IsLiteral t) (before after : List Token) :
    Role.ofCursor ⟨before, t, after⟩ ∈ [.quotedBody, .inert] := by
  rw [Role.ofCursor]
  rcases h.kind with hk | hk <;> simp only [hk]
  · split <;> simp
  · simp

theorem IsLiteral.stepAt (h : IsLiteral t) (state : Nesting) (before after : List Token) :
    (state.stepAt ⟨before, t, after⟩).2 = false ∧
      (state.stepAt ⟨before, t, after⟩).1.package = state.package := by
  have hr := h.ofCursor before after
  simp only [List.mem_cons, List.not_mem_nil, or_false] at hr
  rw [Nesting.stepAt]
  rcases hr with hr | hr <;> rw [hr] <;> exact ⟨rfl, rfl⟩

theorem IsLiteral.outline_append (ht : IsLiteral t) (hgap : ∀ v ∈ gap, v.isSignificant = false)
    (xs : List Token) : outline (xs ++ t :: gap) = outline xs ++ [(t, false)] := by
  have hk : t.kind ≠ .separator := by
    rcases ht.kind with hk | hk <;> simp [hk]
  have hnil : outlineFrom false gap = [] := outline_of_significant_eq_nil (significant_eq_nil hgap)
  rw [outline, outlineFrom_append_cons ht.isSignificant hk, hnil]
  rfl

theorem Passed.unended_of_literal {t' : Token} (h : Passed (mid ++ t :: gap) after)
    (hgap : ∀ v ∈ gap, v.isSignificant = false) (ht : IsLiteral t) (ht' : IsLiteral t') :
    Unended (mid ++ [t']) := by
  obtain ⟨state, hpass, hcan⟩ := h.pass
  rw [cursorsBetween_append, pass?_append, Option.bind_eq_some_iff] at hpass
  obtain ⟨inner, hpass, hlater⟩ := hpass
  rw [cursorsBetween_cons, pass?, Option.ite_none_left_eq_some, pass?_layout hgap,
    Option.some.injEq] at hlater
  have hpackage : inner.package = none := by
    rw [← (ht.stepAt inner _ _).2, hlater.2]
    exact package_of_canTerminate hcan
  have hslash : ∀ m ∈ (significant (t :: (gap ++ after))).head?, m.kind = .separator →
      ∀ u ∈ (significant mid).getLast?, u.kind ≠ .terminator := by
    intro m hm hk
    rw [significant_cons, if_pos ht.isSignificant] at hm
    cases hm
    rcases ht.kind with hk' | hk' <;> simp [hk] at hk'
  obtain ⟨ending, hending⟩ := exists_pass?_of_startsPlain (ht.startsPlain _) (ht'.startsPlain [])
    hslash hpass hpackage
  constructor
  · refine ⟨(ending.stepAt ⟨mid.reverse, t', []⟩).1, ?_⟩
    rw [cursors_append, cursorsFrom, cursorsFrom, pass?_append, hending, Option.bind_some, pass?,
      if_neg (by simp [(ht'.stepAt ending _ _).1])]
    rfl
  · rw [getLast?_significantRoles ht'.isSignificant (by simp), Option.mem_some_iff]
    intro hrole
    have hr := ht'.ofCursor mid.reverse []
    simp [hrole] at hr

end SqlScript
