import SqlScript.Proofs.Marks
import SqlScript.Proofs.Reading

namespace SqlScript

open Lexer

/-- The lists have the same significant tokens, with layout of the same text around them. -/
inductive Respaced : List Token → List Token → Prop
  | layout {us ts} (hus : ∀ u ∈ us, u.isSignificant = false)
      (hts : ∀ u ∈ ts, u.isSignificant = false) (htext : textOf us = textOf ts) : Respaced us ts
  | cons {gap gap' t us ts} (hgap : ∀ u ∈ gap, u.isSignificant = false)
      (hgap' : ∀ u ∈ gap', u.isSignificant = false) (htext : textOf gap = textOf gap')
      (ht : t.isSignificant = true) (hrest : Respaced us ts) :
      Respaced (gap ++ t :: us) (gap' ++ t :: ts)

variable {us ts gap ws xs ys kept layout : List Token} {t u v : Token}

theorem append_cons_eq_append (hgap : ∀ u ∈ gap, u.isSignificant = false)
    (ht : t.isSignificant = true) (h : xs ++ t :: ys = gap ++ ws) :
    ∃ more, xs = gap ++ more ∧ ws = more ++ t :: ys := by
  rcases List.append_eq_append_iff.1 h with ⟨more, hgap', hrest⟩ | ⟨more, rfl, rfl⟩
  · cases more with
    | nil => exact ⟨[], by simpa using hgap'.symm, by simpa using hrest.symm⟩
    | cons u more =>
      obtain ⟨rfl, -⟩ := List.cons.inj hrest
      have hlayout := hgap t (by simp [hgap'])
      simp [ht] at hlayout
  · exact ⟨more, rfl, rfl⟩

namespace Respaced

theorem token (h : Respaced us ts) (ht : t.isSignificant = true) :
    Respaced (t :: us) (t :: ts) :=
  @cons [] [] t us ts (by simp) (by simp) rfl ht h

theorem textOf_eq (h : Respaced us ts) : textOf us = textOf ts := by
  induction h with
  | layout _ _ htext => exact htext
  | cons _ _ htext _ _ ih => simp [textOf_cons, htext, ih]

theorem significant_eq (h : Respaced us ts) : significant us = significant ts := by
  induction h with
  | layout hus hts _ => rw [significant_eq_nil hus, significant_eq_nil hts]
  | cons hgap hgap' _ ht _ ih =>
    simp [significant_cons, significant_eq_nil hgap, significant_eq_nil hgap', ht, ih]

/-- Layout and white space in front of it may become one token. -/
theorem merge (h : Respaced (gap ++ us) ts) (hgap : ∀ u ∈ gap, u.isSignificant = false)
    (ht : t.isSignificant = false) (hu : u.isSignificant = false)
    (htext : u.text = t.text ++ textOf gap) : Respaced (u :: us) (t :: ts) := by
  generalize hlist : gap ++ us = ws at h
  cases h with
  | layout hws hts htext' =>
    subst hlist
    have hus := (List.forall_mem_append.1 hws).2
    refine .layout (List.forall_mem_cons.2 ⟨hu, hus⟩) (List.forall_mem_cons.2 ⟨ht, hts⟩) ?_
    rw [textOf_cons, textOf_cons, htext, ← htext', textOf_append, List.append_assoc]
  | @cons g g' v _ _ hg hg' htext' hv hrest =>
    obtain ⟨more, rfl, rfl⟩ := append_cons_eq_append hgap hv hlist.symm
    have hmore := (List.forall_mem_append.1 hg).2
    have htext'' : textOf (u :: more) = textOf (t :: g') := by
      rw [textOf_cons, textOf_cons, htext, ← htext', textOf_append, List.append_assoc]
    exact .cons (List.forall_mem_cons.2 ⟨hu, hmore⟩) (List.forall_mem_cons.2 ⟨ht, hg'⟩) htext'' hv
      hrest

theorem exists_append (h : Respaced us ts) (hts : ts = xs ++ t :: ys)
    (ht : t.isSignificant = true) :
    ∃ as bs, us = as ++ t :: bs ∧ Respaced as xs ∧ Respaced bs ys := by
  induction h generalizing xs with
  | layout _ hlayout _ =>
    have htlayout := hlayout t (by simp [hts])
    simp [ht] at htlayout
  | @cons gap gap' v us ts hgap hgap' htext hv hrest ih =>
    obtain ⟨more, rfl, hmore⟩ := append_cons_eq_append hgap' ht hts.symm
    cases more with
    | nil =>
      obtain ⟨rfl, rfl⟩ := List.cons.inj hmore
      exact ⟨gap, us, rfl, .layout hgap (by simpa using hgap') (by simpa using htext), hrest⟩
    | cons w more =>
      obtain ⟨rfl, rfl⟩ := List.cons.inj hmore
      obtain ⟨as, bs, rfl, has, hbs⟩ := ih rfl
      exact ⟨gap ++ v :: as, bs, by simp, .cons hgap hgap' htext hv has, hbs⟩

theorem isSignificant_of_layout (h : Respaced us ts) (hts : ∀ u ∈ ts, u.isSignificant = false) :
    ∀ u ∈ us, u.isSignificant = false := by
  intro u hu
  by_contra hsig
  have hmem : u ∈ significant us := List.mem_filter.2 ⟨hu, by simpa using hsig⟩
  rw [h.significant_eq, significant_eq_nil hts] at hmem
  cases hmem

end Respaced

theorem startsLine_of_layout (hgap : ∀ u ∈ gap, u.isSignificant = false) (xs : List Token) :
    Cursor.startsLine (gap ++ xs) = ((textOf gap).contains '\n' || Cursor.startsLine xs) := by
  induction gap with
  | nil => rfl
  | cons u gap ih =>
    obtain ⟨hu, hgap⟩ := List.forall_mem_cons.1 hgap
    rw [List.cons_append, Cursor.startsLine, if_neg (by simp [hu]), ih hgap, textOf_cons,
      Token.hasNewline, List.contains_append, Bool.or_assoc]

theorem contains_textOf_reverse (gap : List Token) (c : Char) :
    (textOf gap.reverse).contains c = (textOf gap).contains c := by
  rw [Bool.eq_iff_iff, List.contains_iff_mem, List.contains_iff_mem, textOf, textOf,
    List.mem_flatMap, List.mem_flatMap]
  simp

namespace Respaced

theorem startsLine (h : Respaced us ts) :
    Cursor.startsLine us.reverse = Cursor.startsLine ts.reverse := by
  have hlast {gap : List Token} (hgap : ∀ u ∈ gap, u.isSignificant = false) (xs : List Token) :
      Cursor.startsLine (xs ++ gap).reverse =
        ((textOf gap).contains '\n' || Cursor.startsLine xs.reverse) := by
    rw [List.reverse_append, startsLine_of_layout (fun u hu => hgap u (List.mem_reverse.1 hu)),
      contains_textOf_reverse]
  rcases layout_or_exists_last ts with hts | ⟨ys, u, gap, rfl, hu, hgap⟩
  · have hus := hlast (h.isSignificant_of_layout hts) []
    rw [List.nil_append] at hus
    rw [hus, h.textOf_eq, ← hlast hts [], List.nil_append]
  · obtain ⟨as, bs, rfl, -, hbs⟩ := h.exists_append rfl hu
    rw [List.append_cons as, List.append_cons ys, hlast (hbs.isSignificant_of_layout hgap),
      hlast hgap, hbs.textOf_eq]
    simp [Cursor.startsLine, hu]

theorem keptBefore (h : Respaced us ts) (hkept : KeptBefore t ts kept) :
    ∃ kept', KeptBefore t us kept' ∧ textOf kept' = textOf kept := by
  cases hkept with
  | all hlast => exact ⟨us, .all fun ht => by rw [h.significant_eq]; exact hlast ht, h.textOf_eq⟩
  | butSemicolon ht hu hgap =>
    obtain ⟨as, bs, rfl, has, hbs⟩ := h.exists_append rfl (Token.isSignificant_of_terminator hu)
    refine ⟨as ++ bs, .butSemicolon ht hu (hbs.isSignificant_of_layout hgap), ?_⟩
    rw [textOf_append, textOf_append, has.textOf_eq, hbs.textOf_eq]

theorem spaces {previous : Option Char} {s : List Char}
    (h : Respaced (tokensAfter t.text.getLast? s) ts) (hne : t.text ≠ [])
    (hspaces : ∀ c ∈ t.text, Text.isSpace c = true) (ht : t.isSignificant = false) :
    Respaced (tokensAfter previous (t.text ++ s)) (t :: ts) := by
  obtain ⟨gap, us, hread, hgap, heq⟩ := tokensAfter_spaces hne hspaces previous s
  rw [hread] at h
  rw [heq]
  exact h.merge hgap ht (by simp [Token.isSignificant]) rfl

end Respaced

end SqlScript
