import SqlScript.Proofs.Marks
import SqlScript.Proofs.Passages

namespace SqlScript

open Nesting

/-- A plain token that is no dot comes first, if any does. -/
def StartsPlain (after : List Token) : Prop :=
  ∀ m ∈ (significant after).head?, m.keyword = .plain ∧ m.text ≠ ['.']

/-- No token closes the package of the name or makes another one: `END` and `CREATE` stand right
before a dot only, and the dot is not the name. -/
def StaysOpen (name : List Char) : List Token → Prop
  | [] => True
  | t :: rest =>
    (t.keyword = .blockEnd ∨ t.keyword = .create →
      name ≠ ['.'] ∧ ∃ d ∈ rest.head?, d.text = ['.']) ∧ StaysOpen name rest

variable {before mid after more layout xs ys : List Token} {m t u : Token} {state : Nesting}
  {c c' : Cursor} {name : List Char}

theorem StaysOpen.cons (hu : u.keyword ≠ .blockEnd ∧ u.keyword ≠ .create) (h : StaysOpen name ys) :
    StaysOpen name (u :: ys) :=
  ⟨fun hk => (hk.elim hu.1 hu.2).elim, h⟩

theorem StaysOpen.append (h : StaysOpen name ys)
    (hxs : ∀ x ∈ xs, x.keyword ∈ [.modifier, .package, .body]) : StaysOpen name (xs ++ ys) := by
  induction xs with
  | nil => exact h
  | cons x xs ih =>
    obtain ⟨hx, hxs⟩ := List.forall_mem_cons.1 hxs
    refine (ih hxs).cons ⟨?_, ?_⟩ <;> intro hk <;> simp [hk] at hx

theorem dropWhile_append_of_head {α : Type} {p : α → Bool} {ys : List α}
    (h : ∀ y ∈ ys.head?, p y = false) (xs : List α) :
    (xs ++ ys).dropWhile p = xs.dropWhile p ++ ys := by
  cases ys with
  | nil => rw [List.append_nil, List.append_nil]
  | cons y ys => exact dropWhile_append_cons (h y rfl) xs ys

theorem lastPart_append (part : Token) (rest : List Token) :
    (∀ after, (∀ m ∈ after.head?, m.text ≠ ['.']) →
        Cursor.lastPart part (rest ++ after) = Cursor.lastPart part rest) ∨
      (∀ name, name ≠ ['.'] → StaysOpen name (part :: rest)) ∧
        ∀ m after, Cursor.lastPart part (rest ++ m :: after) = Cursor.lastPart m after := by
  have hdotted {name : List Char} {part dot : Token} {xs : List Token} (hname : name ≠ ['.'])
      (hd : dot.text = ['.']) (hxs : StaysOpen name xs) : StaysOpen name (part :: dot :: xs) :=
    ⟨fun _ => ⟨hname, dot, rfl, hd⟩, hxs.cons (by simp [Token.keyword_of_dot hd])⟩
  fun_induction Cursor.lastPart part rest with
  | case1 part dot next rest hd ih =>
    simp only [List.cons_append, Cursor.lastPart, if_pos hd]
    exact ih.imp_right fun h => ⟨fun name hname => hdotted hname hd (h.1 name hname), h.2⟩
  | case2 part dot next rest hd => simp [Cursor.lastPart, hd]
  | case3 rest part hrest =>
    rcases rest with _ | ⟨d, _ | ⟨e, rest⟩⟩
    · left
      rintro (_ | ⟨m, _ | ⟨e, after⟩⟩) hdot
      · rfl
      · rfl
      · simp [Cursor.lastPart, hdot m rfl]
    · by_cases hd : d.text = ['.']
      · right
        exact ⟨fun name hname => hdotted hname hd trivial, by simp [Cursor.lastPart, hd]⟩
      · left
        rintro (_ | ⟨m, after⟩) - <;> simp [Cursor.lastPart, hd]
    · exact absurd rfl (hrest d e rest)

theorem packageName?_of_following {c : Cursor} (hu : c.following? = some u)
    (hk : u.keyword = .plain) : c.packageName? = none := by
  rw [Cursor.following?_eq] at hu
  obtain ⟨rest, hrest⟩ := List.head?_eq_some_iff.1 hu
  rw [Cursor.packageName?, Cursor.object, ← significant, hrest,
    List.dropWhile_cons_of_neg (by simp [hk])]
  simp [hk]

theorem StartsPlain.object_append (h : StartsPlain after) (before mid : List Token) (t : Token) :
    Cursor.object ⟨before, t, mid ++ after⟩ =
      Cursor.object ⟨before, t, mid⟩ ++ significant after := by
  rw [Cursor.object, ← significant, significant_append]
  apply dropWhile_append_of_head
  intro m hm
  simp [(h m hm).1]

theorem StartsPlain.createsTypeBody_append (h : StartsPlain after) (before mid : List Token)
    (t : Token) :
    Cursor.createsTypeBody ⟨before, t, mid ++ after⟩ = Cursor.createsTypeBody ⟨before, t, mid⟩ := by
  rw [Cursor.createsTypeBody, Cursor.createsTypeBody, h.object_append]
  have hplain : ∀ m ∈ (significant after).head?, m.keyword = .plain := fun m hm => (h m hm).1
  rcases Cursor.object ⟨before, t, mid⟩ with _ | ⟨x, _ | ⟨y, object⟩⟩
  · rcases hafter : significant after with _ | ⟨m, _ | ⟨y, after⟩⟩
    · rfl
    · rfl
    · simp [hplain m (by simp [hafter])]
  · cases hafter : significant after with
    | nil => rfl
    | cons m after => simp [hplain m (by simp [hafter])]
  · rfl

/-- The words that may stand between `PACKAGE` and the name. -/
def isNameWord (t : Token) : Bool :=
  [.modifier, .package, .body].contains t.keyword

theorem packageName?_of_object {pk : Token} {rest : List Token} (hobject : c.object = pk :: rest)
    (hpk : pk.keyword = .package) :
    c.packageName? = (match rest.dropWhile isNameWord with
      | [] => none
      | part :: others => some (Cursor.lastPart part others).text) := by
  rw [Cursor.packageName?, hobject]
  simp only [if_pos hpk]
  rfl

theorem StaysOpen.of_object {pk : Token} {rest : List Token}
    (h : StaysOpen name (rest.dropWhile isNameWord))
    (hobject : Cursor.object ⟨before, t, mid⟩ = pk :: rest) (hpk : pk.keyword = .package) :
    StaysOpen name (significant mid) := by
  have hmods := List.takeWhile_append_dropWhile (p := (·.keyword == .modifier))
    (l := significant mid)
  have hwords := List.takeWhile_append_dropWhile (p := isNameWord) (l := rest)
  rw [Cursor.object, ← significant] at hobject
  rw [← hmods, hobject, ← hwords, ← List.cons_append, ← List.append_assoc]
  apply h.append
  intro x hx
  rcases List.mem_append.1 hx with hx | hx
  · have hx' := List.mem_takeWhile_imp hx
    simp [eq_of_beq hx']
  · rcases List.mem_cons.1 hx with rfl | hx
    · simp [hpk]
    · simpa [isNameWord] using List.mem_takeWhile_imp hx

theorem StartsPlain.packageName?_of_object {pk : Token} {rest : List Token} (h : StartsPlain after)
    (hobject : Cursor.object ⟨before, t, mid⟩ = pk :: rest) (hpk : pk.keyword = .package) :
    Cursor.packageName? ⟨before, t, mid ++ after⟩ =
      (match rest.dropWhile isNameWord ++ significant after with
        | [] => none
        | part :: others => some (Cursor.lastPart part others).text) := by
  have hlonger := h.object_append before mid t
  rw [hobject, List.cons_append] at hlonger
  rw [SqlScript.packageName?_of_object hlonger hpk, dropWhile_append_of_head]
  intro m hm
  simp [isNameWord, (h m hm).1]

/-- The name of a package is found in front of a plain token, or it is looked for from that token on
and the package of any name stays open up to it. -/
theorem packageName?_append (before mid : List Token) (t : Token) :
    (∀ after, StartsPlain after → Cursor.packageName? ⟨before, t, mid ++ after⟩ =
        Cursor.packageName? ⟨before, t, mid⟩) ∨
      (∀ name, name ≠ ['.'] ∨ Cursor.packageName? ⟨before, t, mid⟩ = none →
        StaysOpen name (significant mid)) ∧
      ∀ after m more, StartsPlain after → significant after = m :: more →
        Cursor.packageName? ⟨before, t, mid ++ after⟩ = some (Cursor.lastPart m more).text := by
  cases hmid : Cursor.object ⟨before, t, mid⟩ with
  | nil =>
    left
    intro after hafter
    rw [Cursor.packageName?, Cursor.packageName?, hafter.object_append, hmid]
    cases hsig : significant after with
    | nil => rfl
    | cons m more => simp [(hafter m (by simp [hsig])).1]
  | cons pk rest =>
    by_cases hpk : pk.keyword = .package
    · have hname := packageName?_of_object hmid hpk
      have hname' {after : List Token} (hafter : StartsPlain after) :=
        hafter.packageName?_of_object hmid hpk
      cases hparts : rest.dropWhile isNameWord with
      | nil =>
        rw [hparts] at hname'
        right
        refine ⟨fun name _ => StaysOpen.of_object (by rw [hparts]; trivial) hmid hpk, ?_⟩
        intro after m more hafter hsig
        rw [hname' hafter, hsig, List.nil_append]
      | cons part others =>
        rw [hparts] at hname hname'
        rcases lastPart_append part others with h | ⟨hopen, h⟩
        · left
          intro after hafter
          rw [hname' hafter, hname, List.cons_append]
          simp only [h _ fun m hm => (hafter m hm).2]
        · right
          refine ⟨fun name hother => StaysOpen.of_object ?_ hmid hpk, ?_⟩
          · rw [hparts]
            exact hopen name (hother.resolve_right (by simp [hname]))
          · intro after m more hafter hsig
            rw [hname' hafter, hsig, List.cons_append]
            simp only [h]
    · left
      intro after hafter
      simp [Cursor.packageName?, hafter.object_append, hmid, hpk]

theorem package_stepAt (h : u.keyword = .blockEnd ∨ u.keyword = .create →
      name ≠ ['.'] ∧ ∃ d ∈ (significant mid).head?, d.text = ['.'])
    (hstate : state.package = some name) (before after : List Token) :
    (state.stepAt ⟨before, u, mid ++ after⟩).1.package = some name := by
  by_contra hlost
  have hfollowing : ∀ d ∈ (significant mid).head?,
      Cursor.following? ⟨before, u, mid ++ after⟩ = some d := by
    intro d hd
    rw [Cursor.following?_eq, significant_append, List.head?_append, Option.mem_def.1 hd]
    rfl
  have hr := Role.describes_ofCursor ⟨before, u, mid ++ after⟩
  rcases role_of_package_lost hstate hlost with ⟨other, hrole⟩ | hrole
  · rw [hrole] at hr
    obtain ⟨-, d, hd, hdot⟩ := h (.inr hr.1)
    have hnone := packageName?_of_following (hfollowing d hd) (Token.keyword_of_dot hdot)
    rw [hr.2] at hnone
    cases hnone
  · rw [hrole] at hr
    obtain ⟨hname, d, hd, hdot⟩ := h (.inl (Cursor.keyword_of_closesBlock hr.1))
    have htext := hr.2
    rw [hfollowing d hd, Option.map_some, Option.some.injEq] at htext
    exact hname (htext.symm.trans hdot)

theorem passes_staysOpen (h : StaysOpen name (significant mid)) (before after : List Token) :
    Passes (fun s => s.package = some name) (cursorsBetween before mid after)
      (fun s => s.package = some name) := by
  induction mid generalizing before with
  | nil => exact .nil
  | cons u mid ih =>
    rw [cursorsBetween_cons]
    by_cases hu : u.isSignificant = true
    · rw [significant_cons, if_pos hu] at h
      refine .cons (passes_of_stepAt fun state hstate => ⟨?_, ?_⟩) (ih h.2 (u :: before))
      · by_contra hends
        have hcan := (canTerminate_of_ends (Bool.not_eq_false _ ▸ hends)).1
        simp [canTerminate, inPackage, hstate] at hcan
      · exact package_stepAt h.1 hstate before after
    · rw [significant_cons, if_neg hu] at h
      refine .cons (passes_of_stepAt fun state hstate => ?_) (ih h (u :: before))
      rw [step_of_layout state (by simpa using hu)]
      exact ⟨rfl, hstate⟩

theorem Token.keyword_of_mark (hm : m.kind = .terminator ∨ m.kind = .separator) :
    m.keyword = .plain := by
  rcases hm with hk | hk <;> exact keyword_of_kind_ne (by simp [hk])

theorem startsPlain_of_mark (hm : m.kind = .terminator ∨ m.kind = .separator)
    (hdot : m.text ≠ ['.']) (more : List Token) : StartsPlain (m :: more) := by
  intro u hu
  rw [significant_cons, if_pos (Token.isSignificant_of_mark hm)] at hu
  cases hu
  exact ⟨Token.keyword_of_mark hm, hdot⟩

theorem following?_append (hm : m.isSignificant = true) (before mid more : List Token) (t : Token) :
    Cursor.following? ⟨before, t, mid ++ m :: more⟩ = (significant mid ++ [m]).head? := by
  rw [Cursor.following?_eq, significant_append, significant_cons, if_pos hm]
  cases significant mid <;> rfl

/-- What follows a token matters to it only by the next significant token and, for `CREATE`, by
what it makes. -/
theorem ofCursor_congr {after after' : List Token}
    (hfollowing : Cursor.following? ⟨before, t, after⟩ = Cursor.following? ⟨before, t, after'⟩)
    (hbody : Cursor.createsTypeBody ⟨before, t, after⟩ = Cursor.createsTypeBody ⟨before, t, after'⟩)
    (hname : t.keyword = .create →
      Cursor.packageName? ⟨before, t, after⟩ = Cursor.packageName? ⟨before, t, after'⟩) :
    Role.ofCursor ⟨before, t, after⟩ = Role.ofCursor ⟨before, t, after'⟩ := by
  have hbegin : Cursor.opensBegin ⟨before, t, after⟩ = Cursor.opensBegin ⟨before, t, after'⟩ := by
    rw [Cursor.opensBegin, Cursor.opensBegin, hfollowing]
  have hcloses :
      Cursor.closesBlock ⟨before, t, after⟩ = Cursor.closesBlock ⟨before, t, after'⟩ := by
    rw [Cursor.closesBlock, Cursor.closesBlock, hfollowing]
  have hend : Cursor.isTerminator ⟨before, t, after⟩ = Cursor.isTerminator ⟨before, t, after'⟩ := by
    rw [Cursor.isTerminator, Cursor.isTerminator, hfollowing]
    rfl
  have hkeyword : Role.ofKeyword ⟨before, t, after⟩ = Role.ofKeyword ⟨before, t, after'⟩ := by
    cases hk : t.keyword with
    | create => simp only [Role.ofKeyword, hk, hbody, hname hk]
    | caseOpen =>
      simp only [Role.ofKeyword, hk]
      rfl
    | routine =>
      simp only [Role.ofKeyword, hk]
      rfl
    | _ => simp only [Role.ofKeyword, hk, hbegin, hcloses, hfollowing]
  simp only [Role.ofCursor, hkeyword, hend]
  rfl

/-- The mark ends a statement behind the tokens that are run from the given nesting. -/
def EndsBehind (state : Nesting) (before mid : List Token) (m : Token) : Prop :=
  ((state.run (cursorsBetween before mid [m])).stepAt ⟨mid.reverse ++ before, m, []⟩).2 = true

theorem take_cursorsFrom (before xs after : List Token) :
    (cursorsFrom before (xs ++ after)).take xs.length = cursorsBetween before xs after := by
  induction xs generalizing before with
  | nil => rfl
  | cons x xs ih =>
    rw [List.cons_append, cursorsFrom, List.length_cons, List.take_succ_cons, ih,
      cursorsBetween_cons]

namespace EndsBehind

theorem of_mem_boundaries (h : mid.length ∈ boundaries (mid ++ [m])) : EndsBehind {} [] mid m := by
  obtain ⟨c, hc, hends⟩ := holdsAt_iff.1 (mem_boundaries_iff.1 h)
  rw [cursors, getElem?_cursorsFrom, Option.some.injEq] at hc
  subst hc
  rwa [nestingAt, cursors, take_cursorsFrom] at hends

theorem tail (h : EndsBehind state before (u :: mid) m) :
    EndsBehind (state.stepAt ⟨before, u, mid ++ [m]⟩).1 (u :: before) mid m := by
  rw [EndsBehind, cursorsBetween_cons, run_cons, List.reverse_cons, List.append_assoc] at h
  exact h

theorem skip (hlayout : ∀ u ∈ layout, u.isSignificant = false)
    (h : EndsBehind state before (layout ++ mid) m) :
    EndsBehind state (layout.reverse ++ before) mid m := by
  induction layout generalizing before with
  | nil => exact h
  | cons u layout ih =>
    obtain ⟨hu, hlayout⟩ := List.forall_mem_cons.1 hlayout
    have htail := h.tail
    rw [step_of_layout state hu] at htail
    simpa using ih hlayout htail

theorem role (h : EndsBehind state before mid m) :
    (state.run (cursorsBetween before mid [m])).canTerminate = true ∧
      Cursor.isTerminator ⟨mid.reverse ++ before, m, []⟩ = true := by
  obtain ⟨hcan, hrole⟩ := canTerminate_of_ends h
  have hr := Role.describes_ofCursor ⟨mid.reverse ++ before, m, []⟩
  rw [hrole] at hr
  exact ⟨hcan, hr⟩

theorem kind (h : EndsBehind state before mid m) : m.kind = .terminator ∨ m.kind = .separator :=
  (Cursor.kind_of_isTerminator h.role.2).symm

/-- In front of a mark that ends a statement a token does the same whatever follows the mark. -/
theorem ofCursor_eq (h : EndsBehind state before (u :: mid) m) (hdot : m.text ≠ ['.'])
    (more : List Token) :
    Role.ofCursor ⟨before, u, mid ++ m :: more⟩ = Role.ofCursor ⟨before, u, mid ++ [m]⟩ := by
  have hsig := Token.isSignificant_of_mark h.kind
  have hplain := startsPlain_of_mark h.kind hdot
  have hfollowing : Cursor.following? ⟨before, u, mid ++ m :: more⟩ =
      Cursor.following? ⟨before, u, mid ++ [m]⟩ := by
    rw [following?_append hsig, following?_append hsig]
  have hbody : Cursor.createsTypeBody ⟨before, u, mid ++ m :: more⟩ =
      Cursor.createsTypeBody ⟨before, u, mid ++ [m]⟩ := by
    rw [(hplain more).createsTypeBody_append, (hplain []).createsTypeBody_append]
  apply ofCursor_congr hfollowing hbody
  intro hk
  rcases packageName?_append before mid u with hname | ⟨hopen, hname⟩
  · rw [hname _ (hplain more), hname _ (hplain [])]
  -- The package would have the mark for its name and be open at the mark.
  exfalso
  have hmade := hname [m] m [] (hplain []) (by simp [significant_cons, hsig])
  have hstate : (state.stepAt ⟨before, u, mid ++ [m]⟩).1.package = some m.text := by
    rw [stepAt_of_describes (r := .createsPackage m.text) ⟨hk, hmade⟩]
    rfl
  obtain ⟨state', hpass, hpackage⟩ :=
    passes_staysOpen (hopen m.text (.inl hdot)) (u :: before) [m] _ hstate
  have hcan := h.tail.role.1
  rw [run_of_pass? hpass, canTerminate, inPackage, hpackage] at hcan
  simp at hcan

end EndsBehind

end SqlScript
