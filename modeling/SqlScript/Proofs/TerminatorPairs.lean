import SqlScript.Proofs.Marks
import SqlScript.Proofs.Passages

namespace SqlScript

open Nesting

variable {tokens before xs rest gap later : List Token} {t u : Token} {m : Nat}

theorem map_token_cursorsFrom (before tokens : List Token) :
    (cursorsFrom before tokens).map (·.token) = tokens := by
  induction tokens generalizing before with
  | nil => rfl
  | cons t rest ih => rw [cursorsFrom, List.map_cons, ih]

theorem token_of_getElem?_cursors {c : Cursor} (h : (cursors tokens)[m]? = some c) :
    tokens[m]? = some c.token := by
  conv_lhs => rw [← map_token_cursorsFrom [] tokens]
  rw [List.getElem?_map, ← cursors, h, Option.map_some]

theorem exists_gap_of_find? (h : rest.find? (·.isSignificant) = some u) :
    ∃ gap later, rest = gap ++ u :: later ∧ ∀ v ∈ gap, v.isSignificant = false := by
  obtain ⟨-, gap, later, heq, hgap⟩ := List.find?_eq_some_iff_append.1 h
  exact ⟨gap, later, heq, fun v hv => by simpa using hgap v hv⟩

theorem isSeparator_behind_semicolon (ht : t.kind = .terminator) (hu : u.kind = .separator)
    (hgap : ∀ v ∈ gap, v.isSignificant = false) :
    Cursor.isSeparator ⟨gap.reverse ++ t :: before, u, later⟩ = true := by
  have hline : Cursor.startsLine (gap.reverse ++ t :: before) = true := by
    apply Cursor.startsLine_of_terminator
    intro v hv
    rw [significant_append, significant_reverse, significant_eq_nil hgap, significant_cons,
      if_pos (Token.isSignificant_of_terminator ht)] at hv
    cases hv
    exact ht
  rw [Cursor.isSeparator, hu, hline]
  rfl

/-- A semicolon is no terminator just where the next significant token is a slash that separates. -/
theorem isTerminator_semicolon_iff (ht : t.kind = .terminator) :
    Cursor.isTerminator ⟨before, t, rest⟩ = false ↔
      ∃ gap u later, rest = gap ++ u :: later ∧ (∀ v ∈ gap, v.isSignificant = false) ∧
        Cursor.isSeparator ⟨gap.reverse ++ t :: before, u, later⟩ = true := by
  have hforward : Cursor.isTerminator ⟨before, t, rest⟩ =
      (rest.find? (·.isSignificant)).all (·.kind != .separator) := by
    simp [Cursor.isTerminator, Cursor.isSeparator, Cursor.following?, ht]
  rw [hforward]
  constructor
  · intro h
    cases hfind : rest.find? (·.isSignificant) with
    | none => simp [hfind] at h
    | some u =>
      obtain ⟨gap, later, heq, hgap⟩ := exists_gap_of_find? hfind
      have hu : u.kind = .separator := by simpa [hfind] using h
      exact ⟨gap, u, later, heq, hgap, isSeparator_behind_semicolon ht hu hgap⟩
  · rintro ⟨gap, u, later, rfl, hgap, hsep⟩
    rw [Cursor.isSeparator, Bool.and_eq_true, beq_iff_eq] at hsep
    have hk : u.kind = .separator := hsep.1
    have hu : u.isSignificant = true := Token.isSignificant_of_mark (.inr hk)
    have hnone : gap.find? (·.isSignificant) = none :=
      List.find?_eq_none.2 fun v hv => by simp [hgap v hv]
    simp [List.find?_append, hnone, hu, hk]

theorem nestingAt_behind_semicolon (htokens : tokens = xs ++ t :: (gap ++ later))
    (ht : t.kind = .terminator) (hgap : ∀ v ∈ gap, v.isSignificant = false)
    (hend : Cursor.isTerminator ⟨xs.reverse, t, gap ++ later⟩ = false) (hm : xs.length ≤ m)
    (hm' : m ≤ (xs ++ t :: gap).length) : nestingAt tokens m = nestingAt tokens xs.length := by
  by_contra hlost
  obtain ⟨k, c, hk, hkm, hc, hsame, hstep⟩ :=
    exists_step_of_lost (p := (· = nestingAt tokens xs.length)) hm rfl hlost
  -- The token at which the nesting changes is neither the semicolon nor layout.
  refine hstep ?_
  rcases Nat.eq_or_lt_of_le hk with rfl | hlt
  · rw [htokens, cursors, getElem?_cursorsFrom, List.append_nil, Option.some.injEq] at hc
    subst hc
    rw [stepAt_of_mark (.inl ht)]
    intro hends
    have hterminator : Cursor.isTerminator ⟨xs.reverse, t, gap ++ later⟩ = true :=
      Role.ofCursor_eq_iff.1 (canTerminate_of_ends hends).2
    simp [hend] at hterminator
  · have htoken := token_of_getElem?_cursors hc
    have hmem : c.token ∈ gap := by
      rw [List.length_append, List.length_cons] at hm'
      rw [htokens, ← List.singleton_append, ← List.append_assoc, ← List.append_assoc,
        List.getElem?_append_left (by simp; omega), List.getElem?_append_right (by simp; omega)]
        at htoken
      exact List.mem_of_getElem? htoken
    rw [step_of_layout _ (hgap _ hmem), hsame]

/-- Where nothing is open, a semicolon ends the statement, or the next significant token is a slash
that ends it, with the nesting unchanged in between. A slash that ends a statement right behind a
semicolon is the only one of the two that does. Nothing else ends a statement, and nothing does
where something is open. -/
theorem ends_once (tokens : List Token) :
    (∀ xs t rest, tokens = xs ++ t :: rest → t.kind = .terminator →
      (nestingAt tokens xs.length).canTerminate = true →
        xs.length ∈ boundaries tokens ∨
          ∃ gap u later, rest = gap ++ u :: later ∧ (∀ v ∈ gap, v.isSignificant = false) ∧
            u.kind = .separator ∧ (xs ++ t :: gap).length ∈ boundaries tokens ∧
            ∀ m, xs.length ≤ m → m ≤ (xs ++ t :: gap).length →
              nestingAt tokens m = nestingAt tokens xs.length) ∧
      (∀ xs t gap u later, tokens = xs ++ t :: (gap ++ u :: later) → t.kind = .terminator →
        (∀ v ∈ gap, v.isSignificant = false) → u.kind = .separator →
        (xs ++ t :: gap).length ∈ boundaries tokens → xs.length ∉ boundaries tokens) ∧
      ∀ j ∈ boundaries tokens, (nestingAt tokens j).canTerminate = true ∧
        ∃ t, tokens[j]? = some t ∧ (t.kind = .terminator ∨ t.kind = .separator) := by
  refine ⟨?_, ?_, ?_⟩
  · intro xs t rest htokens ht hopen
    cases hend : Cursor.isTerminator ⟨xs.reverse, t, rest⟩ with
    | true =>
      subst htokens
      exact .inl (mem_boundaries_append_cons_iff.2 ⟨hopen, hend⟩)
    | false =>
      obtain ⟨gap, u, later, rfl, hgap, hsep⟩ := (isTerminator_semicolon_iff ht).1 hend
      have hsame (m : Nat) := nestingAt_behind_semicolon (m := m) htokens ht hgap hend
      refine .inr ⟨gap, u, later, rfl, hgap, ?_, ?_, hsame⟩
      · rw [Cursor.isSeparator, Bool.and_eq_true, beq_iff_eq] at hsep
        exact hsep.1
      · have hsplit : tokens = (xs ++ t :: gap) ++ u :: later := by simp [htokens]
        have hslash : Cursor.isTerminator ⟨(xs ++ t :: gap).reverse, u, later⟩ = true := by
          rw [List.reverse_append, List.reverse_cons, List.append_assoc, List.singleton_append,
            Cursor.isTerminator, hsep, Bool.true_or]
        have hopen' := hsame _ (by simp) (Nat.le_refl _) ▸ hopen
        rw [hsplit] at hopen' ⊢
        exact mem_boundaries_append_cons_iff.2 ⟨hopen', hslash⟩
  · intro xs t gap u later htokens ht hgap hu _ hmem
    have hnot : Cursor.isTerminator ⟨xs.reverse, t, gap ++ u :: later⟩ = false :=
      (isTerminator_semicolon_iff ht).2
        ⟨gap, u, later, rfl, hgap, isSeparator_behind_semicolon ht hu hgap⟩
    rw [htokens, mem_boundaries_append_cons_iff, hnot] at hmem
    cases hmem.2
  · intro j hj
    obtain ⟨c, hc, hends⟩ := holdsAt_iff.1 (mem_boundaries_iff.1 hj)
    obtain ⟨hopen, hrole⟩ := canTerminate_of_ends hends
    have hterminator : c.isTerminator = true := Role.ofCursor_eq_iff.1 hrole
    exact ⟨hopen, c.token, token_of_getElem?_cursors hc,
      (Cursor.kind_of_isTerminator hterminator).symm⟩

theorem ends_once_of_slash :
    let pair : List Token := [⟨.terminator, [';']⟩, ⟨.space, ['\n']⟩, ⟨.separator, ['/']⟩]
    (nestingAt pair 0).canTerminate = true ∧ 0 ∉ boundaries pair ∧
      ∃ gap u later, pair.tail = gap ++ u :: later ∧ u.kind = .separator ∧
        gap.length + 1 ∈ boundaries pair := by
  intro pair
  have hopen : (nestingAt pair 0).canTerminate = true := by decide +kernel
  have hslash : 2 ∈ boundaries pair := by decide +kernel
  obtain ⟨hsemicolon, hpair, -⟩ := ends_once pair
  have hnot := hpair [] _ [⟨.space, ['\n']⟩] _ _ rfl rfl (by simp [Token.isSignificant]) rfl hslash
  refine ⟨hopen, hnot, ?_⟩
  obtain hends | ⟨gap, u, later, hrest, -, hu, hends, -⟩ := hsemicolon [] _ _ rfl rfl hopen
  · exact absurd hends hnot
  · exact ⟨gap, u, later, hrest, hu, hends⟩

end SqlScript
