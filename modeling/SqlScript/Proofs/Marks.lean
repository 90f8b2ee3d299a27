import SqlScript.Proofs.Boundaries
import SqlScript.Proofs.Locality
import Mathlib.Data.List.Induction

namespace SqlScript

/-- The segment behind `front` ends with the mark `t`, behind which `post` is left. -/
structure MarkedBy (tokens : List Token) (front : List Segment) (segment : Segment)
    (first : List Token) (t : Token) (post : List Token) : Prop where
  script : tokens = front.flatMap (·.tokens) ++ (first ++ t :: post)
  boundary : (front.flatMap (·.tokens) ++ first).length ∈ boundaries tokens
  segment : segment.tokens = first ++ t :: trailingComments post

/-- What is left of the tokens in front of a mark: all of them, or all but the semicolon right
before it if the mark is a slash. -/
inductive KeptBefore (t : Token) : List Token → List Token → Prop
  | all {xs} (h : t.kind = .separator → ∀ u ∈ (significant xs).getLast?, u.kind ≠ .terminator) :
      KeptBefore t xs xs
  | butSemicolon {xs u gap} (ht : t.kind = .separator) (hu : u.kind = .terminator)
      (hgap : ∀ v ∈ gap, v.isSignificant = false) : KeptBefore t (xs ++ u :: gap) (xs ++ gap)

variable {tokens before held rest older xs kept layout gap first post : List Token}
  {front back : List Segment} {segment : Segment} {t u : Token}

theorem getElem?_cursorsFrom (before xs rest : List Token) (t : Token) :
    (cursorsFrom before (xs ++ t :: rest))[xs.length]? = some ⟨xs.reverse ++ before, t, rest⟩ := by
  induction xs generalizing before with
  | nil => rfl
  | cons u xs ih => simp [cursorsFrom, ih]

theorem mem_boundaries_append_cons_iff :
    xs.length ∈ boundaries (xs ++ t :: rest) ↔
      (nestingAt (xs ++ t :: rest) xs.length).canTerminate = true ∧
        Cursor.isTerminator ⟨xs.reverse, t, rest⟩ = true := by
  rw [mem_boundaries_iff, holdsAt_iff, cursors, getElem?_cursorsFrom, List.append_nil]
  constructor
  · rintro ⟨c, hc, hends⟩
    obtain rfl := Option.some.inj hc
    obtain ⟨hopen, hrole⟩ := Nesting.canTerminate_of_ends hends
    exact ⟨hopen, Role.ofCursor_eq_iff.1 hrole⟩
  · rintro ⟨hopen, hend⟩
    refine ⟨_, rfl, ?_⟩
    rw [Nesting.stepAt_of_describes (r := .terminator) hend, Nesting.step, if_pos hopen]

theorem isTerminator_of_mem_boundaries (h : xs.length ∈ boundaries (xs ++ t :: rest)) :
    Cursor.isTerminator ⟨xs.reverse, t, rest⟩ = true :=
  (mem_boundaries_append_cons_iff.1 h).2

theorem exists_mark_of_cut (state : Nesting) (before held rest older : List Token)
    (front : List Segment) (hbefore : before = held ++ older)
    (h : (cut state before held rest).1 = front ++ segment :: back) (hback : back ≠ []) :
    ∃ first t post,
      held.reverse ++ rest = front.flatMap (·.tokens) ++ (first ++ t :: post) ∧
        segment.tokens = first ++ t :: trailingComments post ∧
        older.length + (front.flatMap (·.tokens) ++ first).length ∈
          state.boundariesAfter before rest := by
  fun_induction cut state before held rest generalizing older front with
  | case1 state before held =>
    rcases List.cons_eq_append_iff.1 h with ⟨-, h⟩ | ⟨_, -, h⟩
    · simp_all
    · simp at h
  | case2 state before held t rest outcome hends comments others ih =>
    rw [Nesting.boundariesAfter_of_ends hends]
    rcases List.cons_eq_append_iff.1 h with ⟨rfl, hcons⟩ | ⟨front', rfl, hrest⟩
    · obtain ⟨rfl, rfl⟩ := List.cons.inj hcons
      refine ⟨held.reverse, t, rest, rfl, rfl, ?_⟩
      simp [hbefore, Nat.add_comm]
    · obtain ⟨later, hlater⟩ : comments <+: rest := trailingComments_isPrefix rest
      have hdrop : rest.drop comments.length = later := by
        rw [← hlater]
        exact List.drop_left
      have hskip := outcome.1.boundariesAfter_layout (t :: before) later
        fun u (hu : u ∈ comments) => isSignificant_of_mem_trailingComments hu
      obtain ⟨first, u, post, heq, hsegment, hmem⟩ :=
        ih (comments.reverse ++ t :: before) front' rfl hrest
      rw [hdrop] at heq hmem
      rw [hlater] at hskip
      refine ⟨first, u, post, ?_, hsegment, List.mem_cons_of_mem _ ?_⟩
      · rw [List.flatMap_cons, List.append_assoc, ← heq, ← hlater]
        simp
      · rw [hskip]
        convert hmem using 1
        simp only [hbefore, List.flatMap_cons, List.length_append, List.length_reverse,
          List.length_cons]
        omega
  | case3 state before held t rest outcome hends ih =>
    rw [Nesting.boundariesAfter_of_not_ends hends]
    obtain ⟨first, u, post, heq, hsegment, hmem⟩ := ih older front (by rw [hbefore]; rfl) h
    exact ⟨first, u, post, by simpa using heq, hsegment, hmem⟩

/-- A segment with another one behind it ends with a mark, and with comments behind the mark. -/
theorem exists_markedBy (h : (segments tokens).1 = front ++ segment :: back) (hback : back ≠ []) :
    ∃ first t post, MarkedBy tokens front segment first t post := by
  obtain ⟨first, t, post, heq, hsegment, hmem⟩ :=
    exists_mark_of_cut {} [] [] tokens [] front rfl h hback
  rw [List.length_nil, Nat.zero_add] at hmem
  exact ⟨first, t, post, heq, hmem, hsegment⟩

theorem MarkedBy.isTerminator (h : MarkedBy tokens front segment first t post) :
    Cursor.isTerminator ⟨(front.flatMap (·.tokens) ++ first).reverse, t, post⟩ = true := by
  have hmem := h.boundary
  have hscript := h.script
  rw [← List.append_assoc] at hscript
  rw [hscript] at hmem
  exact isTerminator_of_mem_boundaries hmem

theorem MarkedBy.kind (h : MarkedBy tokens front segment first t post) :
    t.kind = .terminator ∨ t.kind = .separator :=
  (Cursor.kind_of_isTerminator h.isTerminator).symm

theorem eq_append_of_segments (h : (segments tokens).1 = front ++ segment :: back) :
    tokens = front.flatMap (·.tokens) ++ (segment.tokens ++ back.flatMap (·.tokens)) := by
  conv_lhs => rw [← tokens_segments tokens, h, List.flatMap_append, List.flatMap_cons]

theorem front_eq_nil_or_exists_markedBy (h : (segments tokens).1 = front ++ segment :: back) :
    front = [] ∨ ∃ init last first t post, front = init ++ [last] ∧
      MarkedBy tokens init last first t post ∧
      post = trailingComments post ++ (segment.tokens ++ back.flatMap (·.tokens)) := by
  rcases List.eq_nil_or_concat front with rfl | ⟨init, last, rfl⟩
  · exact .inl rfl
  rw [List.concat_eq_append, List.append_assoc, List.singleton_append] at h
  obtain ⟨first, t, post, hmarked⟩ := exists_markedBy h (by simp)
  refine .inr ⟨init, last, first, t, post, List.concat_eq_append .., hmarked, ?_⟩
  have hscript := hmarked.script.symm.trans (eq_append_of_segments h)
  simpa [hmarked.segment] using hscript

theorem Token.isSignificant_of_mark (h : t.kind = .terminator ∨ t.kind = .separator) :
    t.isSignificant = true := by
  rcases h with h | h <;> simp [isSignificant, isComment, h]

theorem startsLine_left (h : Cursor.startsLine (xs ++ before) = true) :
    Cursor.startsLine xs = true := by
  induction xs with
  | nil => rfl
  | cons u xs ih =>
    rw [List.cons_append, Cursor.startsLine] at h
    rw [Cursor.startsLine]
    split
    · next hu => rwa [if_pos hu] at h
    · next hu =>
      rw [if_neg hu, Bool.or_eq_true] at h
      rw [Bool.or_eq_true]
      exact h.imp_right ih

theorem following?_of_layout (xs : List Token) (t : Token)
    (hlayout : ∀ u ∈ layout, u.isSignificant = false) :
    Cursor.following? ⟨xs, t, layout⟩ = none := by
  rw [Cursor.following?_eq, significant_eq_nil hlayout]
  rfl

theorem isTerminator_iff_of_layout (hlayout : ∀ u ∈ layout, u.isSignificant = false)
    (ht : t.kind = .terminator ∨ t.kind = .separator) :
    Cursor.isTerminator ⟨xs, t, layout⟩ = true ↔
      t.kind = .terminator ∨ Cursor.startsLine xs = true := by
  rw [Cursor.isTerminator, Cursor.isSeparator, following?_of_layout xs t hlayout]
  rcases ht with hk | hk <;> simp [hk]

/-- A mark that ends a segment is a terminator among the tokens of the segment too. -/
theorem isTerminator_left (h : Cursor.isTerminator ⟨xs ++ before, t, rest⟩ = true)
    (hlayout : ∀ u ∈ layout, u.isSignificant = false) :
    Cursor.isTerminator ⟨xs, t, layout⟩ = true := by
  have ht : t.kind = .terminator ∨ t.kind = .separator := (Cursor.kind_of_isTerminator h).symm
  rw [isTerminator_iff_of_layout hlayout ht]
  rw [Cursor.isTerminator, Cursor.isSeparator, Bool.or_eq_true, Bool.and_eq_true,
    Bool.and_eq_true] at h
  rcases h with ⟨-, hline⟩ | ⟨hk, -⟩
  · exact .inr (startsLine_left hline)
  · exact .inl (eq_of_beq hk)

theorem layout_or_exists_last (xs : List Token) :
    (∀ v ∈ xs, v.isSignificant = false) ∨
      ∃ ys u gap, xs = ys ++ u :: gap ∧ u.isSignificant = true ∧
        ∀ v ∈ gap, v.isSignificant = false := by
  induction xs using List.reverseRecOn with
  | nil => exact .inl (by simp)
  | append_singleton xs v ih =>
    cases hv : v.isSignificant with
    | true => exact .inr ⟨xs, v, [], rfl, hv, by simp⟩
    | false =>
      rcases ih with hxs | ⟨ys, u, gap, rfl, hu, hgap⟩
      · exact .inl (by simpa [or_imp, forall_and, hv] using hxs)
      · exact .inr ⟨ys, u, gap ++ [v], by simp, hu, by simpa [or_imp, forall_and, hv] using hgap⟩

theorem significant_append_cons (ys : List Token) (hu : u.isSignificant = true)
    (hgap : ∀ v ∈ gap, v.isSignificant = false) :
    significant (ys ++ u :: gap) = significant ys ++ [u] := by
  rw [significant_append, significant_cons, if_pos hu, significant_eq_nil hgap]

theorem exists_keptBefore (t : Token) (xs : List Token) : ∃ kept, KeptBefore t xs kept := by
  rcases layout_or_exists_last xs with hxs | ⟨ys, u, gap, rfl, hu, hgap⟩
  · exact ⟨xs, .all (by simp [significant_eq_nil hxs])⟩
  · by_cases hpair : t.kind = .separator ∧ u.kind = .terminator
    · exact ⟨ys ++ gap, .butSemicolon hpair.1 hpair.2 hgap⟩
    · refine ⟨_, .all fun ht v hv hk => hpair ⟨ht, ?_⟩⟩
      rw [significant_append_cons ys hu hgap, List.getLast?_concat, Option.mem_some_iff] at hv
      rwa [hv]

theorem KeptBefore.append (h : KeptBefore t xs kept) (hbefore : t.kind = .separator →
      significant xs = [] → ∀ u ∈ (significant before).getLast?, u.kind ≠ .terminator) :
    KeptBefore t (before ++ xs) (before ++ kept) := by
  cases h with
  | all h =>
    apply KeptBefore.all
    intro ht u hu
    rw [significant_append, List.getLast?_append] at hu
    cases hlast : (significant xs).getLast? with
    | none =>
      rw [hlast] at hu
      exact hbefore ht (List.getLast?_eq_none_iff.1 hlast) u hu
    | some v =>
      rw [hlast] at hu
      cases hu
      exact h ht u hlast
  | butSemicolon ht hu hgap =>
    rw [← List.append_assoc, ← List.append_assoc]
    exact .butSemicolon ht hu hgap

theorem MarkedBy.keptBefore_front (hmarked : MarkedBy tokens front segment first t post)
    (hsegments : (segments tokens).1 = front ++ segment :: back)
    (hkept : KeptBefore t first kept) :
    KeptBefore t (front.flatMap (·.tokens) ++ first) (front.flatMap (·.tokens) ++ kept) := by
  apply hkept.append
  intro ht hfirst u hu hk
  rcases front_eq_nil_or_exists_markedBy hsegments with
    rfl | ⟨init, last, first', t', post', rfl, hlast, hpost⟩
  · simp at hu
  have hcomments : ∀ v ∈ trailingComments post', v.isSignificant = false :=
    fun v hv => isSignificant_of_mem_trailingComments hv
  have hfollowing : (significant post').head? = some t := by
    rw [hpost, significant_append, significant_eq_nil hcomments, hmarked.segment]
    simp [significant_cons, hfirst, Token.isSignificant_of_mark hmarked.kind]
  have hsig := Token.isSignificant_of_mark hlast.kind
  rw [List.flatMap_append, List.flatMap_singleton, hlast.segment, significant_append,
    significant_append_cons first' hsig hcomments, ← List.append_assoc, List.getLast?_concat,
    Option.mem_some_iff] at hu
  subst hu
  have hend := hlast.isTerminator
  rw [Cursor.isTerminator, Cursor.isSeparator, Cursor.following?_eq, hfollowing] at hend
  simp [hk, ht] at hend

theorem dropSemicolon_append (hgap : ∀ v ∈ gap, v.isSignificant = false) (xs : List Token) :
    dropSemicolon (gap ++ xs) = gap ++ dropSemicolon xs := by
  induction gap with
  | nil => rfl
  | cons v gap ih =>
    have hv := hgap v (by simp)
    have hk : v.kind ≠ .terminator := fun hk => by
      simp [Token.isSignificant_of_terminator hk] at hv
    rw [List.cons_append, dropSemicolon, if_neg hk, if_neg (by simp [hv]),
      ih fun w hw => hgap w (by simp [hw])]
    rfl

theorem dropSemicolon_eq_self (h : ∀ u ∈ (significant xs).head?, u.kind ≠ .terminator) :
    dropSemicolon xs = xs := by
  induction xs with
  | nil => rfl
  | cons v xs ih =>
    rw [significant_cons] at h
    rw [dropSemicolon]
    split
    · next hk =>
      rw [if_pos (Token.isSignificant_of_terminator hk)] at h
      exact absurd hk (h v rfl)
    · split
      · rfl
      · next hv =>
        rw [if_neg hv] at h
        rw [ih h]

theorem KeptBefore.reverse_dropSemicolon (h : KeptBefore t xs kept) (ht : t.kind = .separator) :
    (dropSemicolon xs.reverse).reverse = kept := by
  cases h with
  | all h =>
    rw [dropSemicolon_eq_self ?_, List.reverse_reverse]
    intro u hu
    apply h ht u
    rwa [significant_reverse, List.head?_reverse] at hu
  | @butSemicolon xs u gap _ hu hgap =>
    have hreverse : (xs ++ u :: gap).reverse = gap.reverse ++ u :: xs.reverse := by simp
    rw [hreverse, dropSemicolon_append fun v hv => hgap v (List.mem_reverse.1 hv), dropSemicolon,
      if_pos hu]
    simp

/-- Where the last token of a statement is a terminator, it is dropped, and with a slash the
semicolon before it; all other tokens stay. -/
theorem dropTerminator_append (hlayout : ∀ u ∈ layout, u.isSignificant = false)
    (ht : t.isSignificant = true) (hkept : KeptBefore t xs kept) :
    dropTerminator (xs ++ t :: layout) =
      if Cursor.isTerminator ⟨xs.reverse, t, layout⟩ = true then kept ++ layout
      else xs ++ t :: layout := by
  have hreverse : (xs ++ t :: layout).reverse = layout.reverse ++ t :: xs.reverse := by simp
  have hstop : ∀ u ∈ layout.reverse, (!u.isSignificant) = true := by simpa using hlayout
  have hsplit := Scan.takeWhile_append_cons xs.reverse (d := t) hstop (by simp [ht])
  have hbefore : (if t.kind = .separator then dropSemicolon xs.reverse else xs.reverse).reverse =
      kept := by
    split
    · next hk => exact hkept.reverse_dropSemicolon hk
    · next hk =>
      cases hkept with
      | all => exact List.reverse_reverse xs
      | butSemicolon hk' => exact absurd hk' hk
  rw [dropTerminator, hreverse, hsplit.1, hsplit.2, List.reverse_reverse]
  simp only [hbefore]

end SqlScript
