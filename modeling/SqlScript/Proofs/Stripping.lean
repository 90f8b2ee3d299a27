import SqlScript.Proofs.Outlines
import SqlScript.Proofs.Terminators

namespace SqlScript

open Lexer Scan

/-- The tokens are those of the list and the layout behind it, or a comment at the start of the
layout has taken in a dash at the end of the list. -/
inductive Joined : List Token → List Token → List Token → Prop
  | apart {us xs layout} (h : Respaced us (xs ++ layout)) : Joined us xs layout
  | dash {us ys c layout} (h : Respaced us (ys ++ ⟨.lineComment, '-' :: c⟩ :: layout)) :
      Joined us (ys ++ [⟨.other, ['-']⟩]) (⟨.lineComment, c⟩ :: layout)

variable {previous : Option Char} {s rest rest' : List Char} {t u x mark : Token}
  {us us' xs ts gap layout : List Token}

namespace Lexer

theorem next?_of_dash_or_dot {c : Char} (hc : c = '-' ∨ c = '.')
    (hline : lineComment? (c :: rest) = none) :
    next? previous (c :: rest) = some (⟨.other, [c]⟩, rest) := by
  have hstring : string? (c :: rest) = none := by
    unfold string?
    split
    · next heq => rcases hc with rfl | rfl <;> cases heq
    · next heq => rcases hc with rfl | rfl <;> cases heq <;> rfl
    · rfl
  have hword : Text.isWordStart '-' = false ∧ Text.isWordStart '.' = false := by decide
  have hdigit : '-'.isDigit = false ∧ '.'.isDigit = false := by decide
  have hspace : Text.isSpace '-' = false ∧ Text.isSpace '.' = false := by decide
  rcases hc with rfl | rfl <;>
    simp [next?, rules, hline, hstring, blockComment?, dollarString?, quotedName?, bracketName?,
      single?, word?, hword, number?, splitRun, hdigit, space?, hspace, anyChar?]

theorem next?_dash (hrest : rest.head? ≠ some '-') :
    next? previous ('-' :: rest) = some (⟨.other, ['-']⟩, rest) := by
  apply next?_of_dash_or_dot (.inl rfl)
  unfold lineComment?
  split
  · next heq =>
    cases heq
    exact absurd rfl hrest
  · rfl

theorem next?_dash_comment (h : next? previous (t.text ++ rest) = some (t, rest))
    (ht : t.kind = .lineComment) (previous' : Option Char) :
    next? previous' ('-' :: (t.text ++ rest)) = some (⟨.lineComment, '-' :: t.text⟩, rest) := by
  have hsplit := scan_of_next? lineComment? h (by simp [rules, ht])
  have hlonger : lineComment? ('-' :: (t.text ++ rest)) = some ('-' :: t.text, rest) := by
    unfold lineComment? at hsplit
    split at hsplit
    · next s heq =>
      obtain ⟨a, ha, hrun⟩ := exists_of_opened (Option.some.inj hsplit)
      obtain rfl : a ++ rest = s := by simpa [ha] using heq
      rw [splitRun, Prod.mk.injEq] at hrun
      simp [ha, lineComment?, splitRun, hrun, Split.opened]
    · cases hsplit
  simp [next?, rules, hlonger]

theorem eq_of_text_dash (h : next? previous (t.text ++ rest) = some (t, rest))
    (ht : t.text = ['-']) : t = ⟨.other, ['-']⟩ := by
  rw [ht, List.cons_append, List.nil_append] at h
  by_cases hrest : rest.head? = some '-'
  · obtain ⟨more, rfl⟩ := List.head?_eq_some_iff.1 hrest
    simp only [next?, rules, List.findSome?_cons, lineComment?, Split.opened, Option.map_some,
      Option.some.injEq, Prod.mk.injEq] at h
    rw [← h.1] at ht
    simp at ht
  · rw [next?_dash hrest] at h
    cases h
    rfl

theorem kind_ne_lineComment
    (h : next? previous (t.text ++ (mark.text ++ s)) = some (t, mark.text ++ s))
    (hm : next? t.text.getLast? (mark.text ++ rest) = some (mark, rest))
    (hmark : mark.kind = .terminator ∨ mark.kind = .separator) : t.kind ≠ .lineComment := by
  intro hk
  obtain ⟨-, -, -, hline⟩ := lineComment_of_next? h hk
  rcases hmark with hmark | hmark
  · have htext : mark.text = [';'] := text_of_next?_single hm (by simp [rules, hmark])
    simp [htext] at hline
  · have htext : mark.text = ['/'] := text_of_next?_single hm (by simp [rules, hmark])
    simp [htext] at hline

theorem next?_of_ne_space (h : next? previous (t.text ++ rest) = some (t, rest))
    (ht : t.kind ≠ .space) (hfollows : Follows rest rest') (hdash : KeepsDash t.text rest rest')
    (hhead : t.kind = .lineComment → ∀ c ∈ rest'.head?, c ∈ rest.head?) :
    next? previous (t.text ++ rest') = some (t, rest') := by
  apply next?_of_accepts h hfollows.agrees hdash
  intro rule hmem hkind hsplit
  by_cases hline : t.kind = .lineComment
  · exact rules_accept_of_head previous hfollows (hhead hline) rule hmem t.text hsplit
  by_cases hblock : t.kind = .blockComment
  · have hrule : rule.2 = blockComment? := by
      revert rule
      simp [rules, hblock]
    rw [hrule] at hsplit ⊢
    exact accepts_blockComment? hfollows hsplit
  · exact rules_accept previous rule hmem (by simp [hkind, ht, hline, hblock]) hfollows hsplit

theorem text_of_layout (h : next? previous (t.text ++ rest) = some (t, rest))
    (ht : t.isSignificant = false) :
    (t.kind = .lineComment ∧ ∃ c, t.text = '-' :: '-' :: c) ∨
      ∃ c text, t.text = c :: text ∧ isBreak c = true ∧ c ≠ '[' := by
  simp only [Token.isSignificant, Token.isComment, Bool.not_eq_false', Bool.or_eq_true,
    beq_iff_eq] at ht
  rcases ht with hk | hk | hk
  · obtain ⟨c, text, htext⟩ := List.exists_cons_of_ne_nil (text_append_of_next? h).2
    have hc := isSpace_of_next? h hk c (by simp [htext])
    refine .inr ⟨c, text, htext, isBreak_of_isSpace hc, ?_⟩
    rintro rfl
    exact absurd hc (by decide)
  · obtain ⟨body, htext, -, -⟩ := lineComment_of_next? h hk
    exact .inl ⟨hk, body, htext⟩
  · have hsplit := scan_of_next? blockComment? h (by simp [rules, hk])
    unfold blockComment? at hsplit
    split at hsplit
    · obtain ⟨a, ha, -⟩ := exists_of_opened (Option.some.inj hsplit)
      exact .inr ⟨'/', '*' :: a, ha, by decide, by decide⟩
    · cases hsplit

end Lexer

theorem kind_of_dot (h : t ∈ tokens s) (ht : t.text = ['.']) : t.kind = .other := by
  obtain ⟨last, s, rest, hnext⟩ := exists_next?_of_mem h
  obtain ⟨rfl, -⟩ := text_append_of_next? hnext
  rw [ht, List.cons_append, List.nil_append, next?_of_dash_or_dot (.inr rfl) rfl] at hnext
  cases hnext
  rfl

theorem follows_layout (hreads : Reads previous layout rest)
    (hlayout : ∀ u ∈ layout, u.isSignificant = false) (hs : s ≠ []) :
    Follows s (textOf layout) := by
  refine ⟨?_, fun hnil => absurd hnil hs⟩
  cases hreads with
  | nil => exact .stop (by simp [textOf])
  | cons hu _ =>
    rw [textOf_cons]
    rcases text_of_layout hu (hlayout _ (by simp)) with ⟨-, c, hc⟩ | ⟨c, text, hc, hbreak, -⟩
    · rw [hc]
      exact .comment
    · rw [hc]
      exact .stop (by simpa using hbreak)

theorem head?_textOf_layout (hreads : Reads previous layout rest)
    (hlayout : ∀ u ∈ layout, u.isSignificant = false) : (textOf layout).head? ≠ some '[' := by
  cases hreads with
  | nil => simp [textOf]
  | cons hu _ =>
    rw [textOf_cons, List.head?_append_of_ne_nil _ (text_append_of_next? hu).2]
    rcases text_of_layout hu (hlayout _ (by simp)) with ⟨-, c, hc⟩ | ⟨c, text, hc, -, hne⟩
    · simp [hc]
    · simpa [hc] using hne

theorem Joined.cons (h : Joined us xs layout)
    (hcons : ∀ {ts}, Respaced us ts → Respaced us' (x :: ts)) : Joined us' (x :: xs) layout := by
  cases h with
  | apart h => exact .apart (hcons h)
  | dash h =>
    rw [← List.cons_append]
    exact .dash (hcons h)

theorem Respaced.comment (h : Respaced us ts) (hx : x.isSignificant = false) :
    Respaced (x :: us) (x :: ts) :=
  (show Respaced ([] ++ us) ts from h).merge (by simp) hx hx (by simp [textOf])

theorem Joined.cons_same (h : Joined us xs layout) (x : Token) :
    Joined (x :: us) (x :: xs) layout := by
  apply h.cons
  intro ts h
  by_cases hx : x.isSignificant = true
  · exact h.token hx
  · exact h.comment (by simpa using hx)

theorem head?_textOf_append (hxs : ∀ u ∈ xs, u.text ≠ []) (hne : xs ≠ []) (s s' : List Char) :
    (textOf xs ++ s).head? = (textOf xs ++ s').head? := by
  obtain ⟨y, ys, rfl⟩ := List.exists_cons_of_ne_nil hne
  have hy : textOf (y :: ys) ≠ [] := by simp [textOf_cons, hxs y (by simp)]
  rw [List.head?_append_of_ne_nil _ hy, List.head?_append_of_ne_nil _ hy]

theorem Joined.respaced (h : Joined us xs layout) (hxs : ⟨.other, ['-']⟩ ∉ xs.getLast?) :
    Respaced us (xs ++ layout) := by
  cases h with
  | apart h => exact h
  | dash => simp at hxs

theorem joined_dash (q : Option Char) (hreads : Reads previous layout [])
    (hlayout : ∀ u ∈ layout, u.isSignificant = false) (hdash : (textOf layout).head? = some '-') :
    Joined (tokensAfter q ('-' :: textOf layout)) [⟨.other, ['-']⟩] layout := by
  cases hreads with
  | nil => simp [textOf] at hdash
  | @cons _ u layout _ hu hrest =>
    obtain ⟨hlu, hlater⟩ := List.forall_mem_cons.1 hlayout
    have hne := (text_append_of_next? hu).2
    rw [textOf_cons, List.head?_append_of_ne_nil _ hne] at hdash
    have hk : u.kind = .lineComment := by
      rcases text_of_layout hu hlu with ⟨hk, -⟩ | ⟨c, text, hc, hbreak, -⟩
      · exact hk
      · rw [hc, List.head?_cons, Option.some.injEq] at hdash
        rw [hdash] at hbreak
        exact absurd hbreak (by decide)
    have hread := tokensAfter_of_next? (next?_dash_comment hu hk q)
    have hlast : ('-' :: u.text).getLast? = u.text.getLast? :=
      List.getLast?_append_of_ne_nil ['-'] hne
    have hothers := tokensAfter_of_reads hrest
    rw [List.append_nil] at hread hothers
    rw [textOf_cons, hread, hlast, hothers, tokensAfter_nil, List.append_nil]
    obtain ⟨k, text⟩ := u
    obtain rfl : k = .lineComment := hk
    have hsame : Respaced (⟨.lineComment, '-' :: text⟩ :: layout)
        ([] ++ ⟨.lineComment, '-' :: text⟩ :: layout) :=
      .layout (List.forall_mem_cons.2 ⟨rfl, hlater⟩) (List.forall_mem_cons.2 ⟨rfl, hlater⟩) rfl
    exact .dash hsame

theorem swallowed_of_not_keepsDash {s' : List Char}
    (hx : next? previous (x.text ++ rest) = some (x, rest)) (hxs : ∀ u ∈ xs, u.text ≠ [])
    (hdash : ¬ KeepsDash x.text (textOf xs ++ s) (textOf xs ++ s')) :
    x = ⟨.other, ['-']⟩ ∧ xs = [] ∧ s'.head? = some '-' := by
  obtain ⟨htext, hfirst, hother⟩ : x.text = ['-'] ∧ (textOf xs ++ s').head? = some '-' ∧
      (textOf xs ++ s).head? ≠ some '-' := by
    simpa [KeepsDash] using hdash
  obtain rfl : xs = [] := by
    by_contra hne
    exact hother (head?_textOf_append hxs hne s s' ▸ hfirst)
  exact ⟨eq_of_text_dash hx htext, rfl, hfirst⟩

/-- A mark between some tokens and layout may go: the rest is read again as it was, but for a dash
that a comment takes in. -/
theorem joined_tokensAfter (hreads : Reads previous (xs ++ mark :: layout) [])
    (hmark : mark.kind = .terminator ∨ mark.kind = .separator)
    (hlayout : ∀ u ∈ layout, u.isSignificant = false) :
    Joined (tokensAfter previous (textOf xs ++ textOf layout)) xs layout := by
  induction xs generalizing previous with
  | nil =>
    cases hreads with
    | cons hm hrest =>
      have hsame : tokensAfter previous (textOf layout) =
          tokensAfter mark.text.getLast? (textOf layout) :=
        tokensAfter_congr_previous fun h => absurd h (head?_textOf_layout hrest hlayout)
      have hread := tokensAfter_of_reads hrest
      rw [List.append_nil, tokensAfter_nil, List.append_nil] at hread
      rw [textOf, List.flatMap_nil, List.nil_append, hsame, hread]
      exact .apart (.layout hlayout hlayout rfl)
  | cons x xs ih =>
    rw [List.cons_append] at hreads
    cases hreads with
    | cons hx hxs =>
      have hlist : textOf (xs ++ mark :: layout) ++ [] =
          textOf xs ++ (mark.text ++ textOf layout) := by
        rw [List.append_nil, textOf_append, textOf_cons]
      rw [hlist] at hx
      have hi := ih hxs
      cases hxs.of_append.2 with
      | cons hm hrest =>
        have hne : mark.text ++ textOf layout ≠ [] := by simp [(text_append_of_next? hm).2]
        have hfollows : Follows (textOf xs ++ (mark.text ++ textOf layout))
            (textOf xs ++ textOf layout) := (follows_layout hrest hlayout hne).append (textOf xs)
        have hlexemes : ∀ u ∈ xs, u.text ≠ [] := fun u hu => hxs.text_ne_nil u (by simp [hu])
        rw [textOf_cons, List.append_assoc]
        by_cases hspace : x.kind = .space
        · exact hi.cons fun h => h.spaces (text_append_of_next? hx).2
            (isSpace_of_next? hx hspace) (by simp [Token.isSignificant, hspace])
        by_cases hdash : KeepsDash x.text (textOf xs ++ (mark.text ++ textOf layout))
            (textOf xs ++ textOf layout)
        · have hhead : x.kind = .lineComment → ∀ c ∈ (textOf xs ++ textOf layout).head?,
              c ∈ (textOf xs ++ (mark.text ++ textOf layout)).head? := by
            intro hk c hc
            by_cases hnil : xs = []
            · subst hnil
              exact absurd hk (kind_ne_lineComment hx hm hmark)
            · rwa [← head?_textOf_append hlexemes hnil]
          rw [tokensAfter_of_next? (next?_of_ne_space hx hspace hfollows hdash hhead)]
          exact hi.cons_same x
        · obtain ⟨rfl, rfl, hfirst⟩ := swallowed_of_not_keepsDash hx hlexemes hdash
          simpa [textOf] using joined_dash previous hrest hlayout hfirst

namespace Respaced

theorem symm (h : Respaced us ts) : Respaced ts us := by
  induction h with
  | layout hus hts htext => exact .layout hts hus htext.symm
  | cons hgap hgap' htext ht _ ih => exact .cons hgap' hgap htext.symm ht ih

theorem outlineFrom_eq (h : Respaced us ts) (passed : Bool) :
    outlineFrom passed us = outlineFrom passed ts := by
  induction h generalizing passed with
  | layout hus hts _ =>
    have hnil := outlineFrom_append_layout hus passed []
    have hnil' := outlineFrom_append_layout hts passed []
    rw [List.nil_append] at hnil hnil'
    rw [hnil, hnil']
  | cons hgap hgap' htext ht _ ih =>
    rw [outlineFrom_layout hgap, outlineFrom_layout hgap', htext, outlineFrom_of_significant ht,
      outlineFrom_of_significant ht, ih]

end Respaced

/-- The first list has the outline of the second one, of which a dash at the end may be missing. -/
inductive ButDash (us : List Token) : List Token → Prop
  | mk {ts swallowed} (houtline : outline us = outline ts)
      (hswallowed : significant swallowed = [] ∨ significant swallowed = [⟨.other, ['-']⟩]) :
      ButDash us (ts ++ swallowed)

theorem Joined.butDash (h : Joined us xs layout) (hlayout : ∀ u ∈ layout, u.isSignificant = false) :
    ButDash us xs := by
  cases h with
  | apart h =>
    have houtline := h.outlineFrom_eq false
    rw [outlineFrom_append_layout hlayout] at houtline
    simpa using ButDash.mk houtline (.inl significant_nil)
  | dash h =>
    have houtline := h.outlineFrom_eq false
    obtain ⟨-, hrest⟩ := List.forall_mem_cons.1 hlayout
    rw [outlineFrom_append_layout (List.forall_mem_cons.2 ⟨rfl, hrest⟩)] at houtline
    exact .mk houtline (.inr rfl)

theorem ButDash.of_respaced (h : ButDash us ts) (hrespaced : Respaced ts xs) : ButDash us xs := by
  obtain @⟨ts, swallowed, houtline, hswallowed | hswallowed⟩ := h
  · have hsame := hrespaced.outlineFrom_eq false
    rw [outlineFrom_append_layout (isSignificant_of_significant_eq_nil hswallowed)] at hsame
    simpa using ButDash.mk (houtline.trans hsame) (.inl significant_nil)
  · obtain ⟨first, others, rfl, hfirst, hothers⟩ := exists_append_of_significant_eq
      (hswallowed.trans (List.nil_append [_]).symm)
    rw [← List.append_assoc] at hrespaced
    obtain ⟨as, bs, rfl, has, hbs⟩ := hrespaced.symm.exists_append rfl rfl
    have hsame := has.outlineFrom_eq false
    rw [outlineFrom_append_layout (isSignificant_of_significant_eq_nil hfirst)] at hsame
    refine .mk (houtline.trans hsame.symm) (.inr ?_)
    rw [significant_cons, hbs.significant_eq, hothers]
    rfl

theorem butDash_of_semicolon (hs : tokens s = xs ++ u :: gap ++ mark :: layout)
    (hmark : mark.kind = .terminator ∨ mark.kind = .separator) (hu : u.kind = .terminator)
    (hgap : ∀ v ∈ gap, v.isSignificant = false) (hlayout : ∀ v ∈ layout, v.isSignificant = false) :
    ButDash (tokens (textOf (xs ++ gap ++ layout))) xs := by
  have hreads := reads_tokensAfter none s
  rw [← tokens, hs] at hreads
  have hjoined := joined_tokensAfter hreads hmark hlayout
  have hlast : ⟨.other, ['-']⟩ ∉ (xs ++ u :: gap).getLast? := by
    intro hlast
    rw [List.getLast?_append_of_ne_nil _ (List.cons_ne_nil u gap)] at hlast
    rcases List.mem_cons.1 (List.mem_of_getLast? hlast) with rfl | hmem
    · cases hu
    · cases hgap _ hmem
  -- The mark is out, and the semicolon is left to be taken out.
  have h := hjoined.respaced hlast
  rw [List.append_assoc, List.cons_append] at h
  obtain ⟨as, bs, heq, has, hbs⟩ := h.exists_append rfl (Token.isSignificant_of_terminator hu)
  have hbetween := reads_tokensAfter none (textOf (xs ++ u :: gap) ++ textOf layout)
  rw [heq] at hbetween
  have hlayout' := hbs.isSignificant_of_layout (List.forall_mem_append.2 ⟨hgap, hlayout⟩)
  have hjoined' := joined_tokensAfter hbetween (.inl hu) hlayout'
  rw [has.textOf_eq, hbs.textOf_eq, ← textOf_append, ← List.append_assoc] at hjoined'
  exact (hjoined'.butDash hlayout').of_respaced has

/-- Without its terminator a text has the outline of some first tokens of it. Between them and the
mark stand only layout, a dash that a comment behind the mark has taken in, and the semicolon that a
slash completes. -/
theorem exists_outline_strip {kept : List Token}
    (hs : tokens s = xs ++ mark :: layout)
    (hmark : mark.kind = .terminator ∨ mark.kind = .separator)
    (hlayout : ∀ v ∈ layout, v.isSignificant = false) (hkept : KeptBefore mark xs kept) :
    ∃ mid rest, xs = mid ++ rest ∧ outline (tokens (textOf (kept ++ layout))) = outline mid ∧
      (∀ v ∈ significant rest, v = ⟨.other, ['-']⟩ ∨ v.kind = .terminator) ∧
      (significant rest = [] → mark.kind = .separator →
        ∀ v ∈ (significant mid).getLast?, v.kind ≠ .terminator) := by
  cases hkept with
  | all hpair =>
    have hreads := reads_tokensAfter none s
    rw [← tokens, hs] at hreads
    have hdash := (joined_tokensAfter hreads hmark hlayout).butDash hlayout
    rw [← textOf_append] at hdash
    obtain @⟨mid, swallowed, houtline, hswallowed⟩ := hdash
    refine ⟨mid, swallowed, rfl, houtline, ?_, fun hnil => ?_⟩
    · rcases hswallowed with h | h <;> simp [h]
    · rwa [significant_append, hnil, List.append_nil] at hpair
  | @butSemicolon xs u gap _ hu hgap =>
    obtain @⟨mid, swallowed, houtline, hswallowed⟩ :=
      butDash_of_semicolon hs hmark hu hgap hlayout
    have hrest : significant (swallowed ++ u :: gap) = significant swallowed ++ [u] :=
      significant_append_cons swallowed (Token.isSignificant_of_terminator hu) hgap
    refine ⟨mid, swallowed ++ u :: gap, List.append_assoc .., houtline, ?_, ?_⟩
    · rw [hrest]
      rcases hswallowed with h | h <;> simp [h, hu]
    · simp [hrest]

/-- A text without its terminator is the text itself, or what is left where its last mark is taken
out, and with a slash the semicolon before it. -/
theorem stripTerminator_cases (s : List Char) :
    stripTerminator s = s ∨ ∃ xs mark layout kept, tokens s = xs ++ mark :: layout ∧
      (mark.kind = .terminator ∨ mark.kind = .separator) ∧
      (∀ u ∈ layout, u.isSignificant = false) ∧ KeptBefore mark xs kept ∧
      Cursor.isTerminator ⟨xs.reverse, mark, layout⟩ = true ∧
      stripTerminator s = textOf (kept ++ layout) := by
  rcases layout_or_exists_last (tokens s) with hall | ⟨xs, t, layout, hs, ht, hlayout⟩
  · left
    rcases dropTerminator_cases (tokens s) with h | ⟨before, t, layout, heq, hend, -⟩
    · rw [stripTerminator, h, textOf_tokens]
    · have hsig := Token.isSignificant_of_mark (Cursor.kind_of_isTerminator hend).symm
      simp [hall t (by simp [heq])] at hsig
  · obtain ⟨kept, hkept⟩ := exists_keptBefore t xs
    have hdrop := dropTerminator_append hlayout ht hkept
    by_cases hend : Cursor.isTerminator ⟨xs.reverse, t, layout⟩ = true
    · rw [if_pos hend] at hdrop
      exact .inr ⟨xs, t, layout, kept, hs, (Cursor.kind_of_isTerminator hend).symm, hlayout, hkept,
        hend, by rw [stripTerminator, hs, hdrop]⟩
    · rw [if_neg hend] at hdrop
      exact .inl (by rw [stripTerminator, hs, hdrop, ← hs, textOf_tokens])

end SqlScript
