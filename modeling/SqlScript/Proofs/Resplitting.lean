import SqlScript.Proofs.Stripping
import SqlScript.Proofs.Trimming
import SqlScript.Proofs.Unended

namespace SqlScript

open Nesting Lexer

variable {script s : List Char} {state state' : Nesting} {m t : Token} {segment : Segment}
  {first before held mid pre post after layout rest ts xs : List Token} {front back : List Segment}

theorem startsLine_append_of_significant (h : significant pre ≠ []) (before : List Token) :
    Cursor.startsLine (pre ++ before) = Cursor.startsLine pre := by
  induction pre with
  | nil => exact absurd rfl h
  | cons u pre ih =>
    rw [List.cons_append, Cursor.startsLine, Cursor.startsLine]
    split
    · rfl
    · next hu =>
      rw [significant_cons, if_neg hu] at h
      rw [ih h]

theorem pass?_append_before (hb : Cursor.IsFresh before)
    (hslash : significant pre = [] → ∀ t ∈ (significant mid).head?, t.kind ≠ .separator)
    (state : Nesting) (after : List Token) :
    state.pass? (cursorsBetween (pre ++ before) mid after) =
      state.pass? (cursorsBetween pre mid after) := by
  induction mid generalizing state pre with
  | nil => rfl
  | cons u mid ih =>
    rw [cursorsBetween_cons, cursorsBetween_cons, pass?, pass?, ← List.cons_append]
    by_cases hu : u.isSignificant = true
    · rw [significant_cons, if_pos hu] at hslash
      have hrole : Role.ofCursor ⟨pre ++ before, u, mid ++ after⟩ =
          Role.ofCursor ⟨pre, u, mid ++ after⟩ := by
        apply Role.ofCursor_append u (mid ++ after) hb
        intro hk
        apply startsLine_append_of_significant
        intro hnil
        exact hslash hnil u rfl hk
      have hcons : significant (u :: pre) ≠ [] := by
        rw [significant_cons, if_pos hu]
        exact List.cons_ne_nil _ _
      rw [Nesting.stepAt, Nesting.stepAt, hrole, ih fun hnil => absurd hnil hcons]
    · rw [significant_cons, if_neg hu] at hslash
      have hu' : u.isSignificant = false := by simpa using hu
      rw [step_of_layout state hu', step_of_layout state hu', ih fun hnil => hslash ?_]
      rwa [significant_cons, if_neg hu] at hnil

theorem pass?_of_isFresh (hb : Cursor.IsFresh before)
    (hslash : ∀ t ∈ (significant mid).head?, t.kind ≠ .separator) (state : Nesting)
    (after : List Token) :
    state.pass? (cursorsBetween before mid after) = state.pass? (cursorsBetween [] mid after) := by
  rw [← List.nil_append before]
  exact pass?_append_before hb (fun _ => hslash) state after

/-- The first segment of some tokens ends with the first terminator in front of which nothing is
open, and with the comments behind it. If there is none it holds all tokens. -/
theorem cut_cases (state : Nesting) (before held rest : List Token) :
    (∃ first m post ending, rest = first ++ m :: post ∧
      state.pass? (cursorsBetween before first (m :: post)) = some ending ∧
      ending.canTerminate = true ∧
      Cursor.isTerminator ⟨first.reverse ++ before, m, post⟩ = true ∧
      ∃ count, cut state before held rest =
        (⟨held.reverse ++ (first ++ m :: trailingComments post), count⟩ ::
          (cut {} ((first ++ m :: trailingComments post).reverse ++ before) []
            (post.drop (trailingComments post).length)).1,
          (cut {} ((first ++ m :: trailingComments post).reverse ++ before) []
            (post.drop (trailingComments post).length)).2)) ∨
    ∃ ending count, state.pass? (cursorsBetween before rest []) = some ending ∧
      cut state before held rest = ([⟨held.reverse ++ rest, count⟩], ending) := by
  fun_induction cut state before held rest with
  | case1 state before held => exact .inr ⟨state, state.placeholders, rfl, by simp⟩
  | case2 state before held t rest outcome hends comments others ih =>
    obtain ⟨hcan, hrole⟩ := canTerminate_of_ends hends
    have hterm : Cursor.isTerminator ⟨before, t, rest⟩ = true := Role.ofCursor_eq_iff.1 hrole
    have hstep : outcome = ({}, true) := stepAt_of_isTerminator hcan hterm
    refine .inl ⟨[], t, rest, state, rfl, rfl, hcan, hterm, state.placeholders, ?_⟩
    simp [others, hstep, comments]
  | case3 state before held t rest outcome hends ih =>
    have hpass {mid after : List Token} (hrest : rest = mid ++ after) (ending : Nesting)
        (h : outcome.1.pass? (cursorsBetween (t :: before) mid after) = some ending) :
        state.pass? (cursorsBetween before (t :: mid) after) = some ending := by
      rw [cursorsBetween_cons, pass?, ← hrest, if_neg hends]
      exact h
    rcases ih with ⟨first, m, post, ending, rfl, h, hcan, hterm, count, hcut⟩ |
        ⟨ending, count, h, hcut⟩
    · refine .inl ⟨t :: first, m, post, ending, rfl, hpass rfl ending h, hcan, ?_, count, ?_⟩
      · simpa using hterm
      · rw [hcut]
        simp
    · refine .inr ⟨ending, count, hpass (by simp) ending h, ?_⟩
      rw [hcut]
      simp

theorem cut_of_segments (before rest : List Token)
    (h : (cut {} before [] rest).1 = front ++ segment :: back) :
    cut {} ((front.flatMap (·.tokens)).reverse ++ before) []
      (segment.tokens ++ back.flatMap (·.tokens)) =
        (segment :: back, (cut {} before [] rest).2) := by
  induction front generalizing before rest with
  | nil =>
    have htokens := tokens_cut {} before [] rest
    rw [h] at htokens
    have hrest : segment.tokens ++ back.flatMap (·.tokens) = rest := by simpa using htokens
    rw [hrest]
    exact Prod.ext h rfl
  | cons first front ih =>
    rcases cut_cases {} before [] rest with
      ⟨passed, m, post, ending, -, -, -, -, count, hcut⟩ | ⟨ending, count, -, hcut⟩
    · rw [hcut, List.cons_append, List.cons.injEq] at h
      obtain ⟨rfl, hlater⟩ := h
      have hi := ih _ _ hlater
      rw [hcut]
      simpa using hi
    · rw [hcut] at h
      simp at h

theorem run_cursorsFrom_eq_cut (state : Nesting) (before held rest : List Token) :
    state.run (cursorsFrom before rest) = (cut state before held rest).2 := by
  fun_induction cut state before held rest with
  | case1 => rfl
  | case2 state before held t rest outcome hends comments others ih =>
    have hrest : comments ++ rest.drop comments.length = rest :=
      List.prefix_iff_eq_append.1 (trailingComments_isPrefix rest)
    have hcomments : ∀ u ∈ comments, u.isSignificant = false :=
      fun u hu => isSignificant_of_mem_trailingComments hu
    have hskip := pass?_layout hcomments outcome.1 (t :: before) (rest.drop comments.length)
    rw [cursorsFrom, run_cons, ← ih]
    conv_lhs => rw [← hrest]
    rw [cursorsFrom_append, run_append, hrest]
    exact congrArg (run · _) (run_of_pass? hskip)
  | case3 state before held t rest outcome hends ih => exact ih

theorem eq_of_pass?_idle
    (hidle : ∀ v ∈ significant rest, v = ⟨.other, ['-']⟩ ∨ v.kind = .terminator)
    (hpass : state.pass? (cursorsBetween before rest after) = some state') : state' = state := by
  induction rest generalizing state before with
  | nil => exact (Option.some.inj hpass).symm
  | cons u rest ih =>
    rw [cursorsBetween_cons, pass?, Option.ite_none_left_eq_some] at hpass
    obtain ⟨hends, hpass⟩ := hpass
    have hsame : (state.stepAt ⟨before, u, rest ++ after⟩).1 = state := by
      by_cases hu : u.isSignificant = true
      · rw [significant_cons, if_pos hu, List.forall_mem_cons] at hidle
        rcases hidle.1 with rfl | hk
        · rfl
        · rw [stepAt_of_mark (.inl hk) hends]
      · rw [step_of_layout state (by simpa using hu)]
    rw [hsame] at hpass
    refine ih (fun v hv => hidle v ?_) hpass
    rw [significant_cons]
    split
    · exact List.mem_cons_of_mem u hv
    · exact hv

theorem isFresh_front (h : (segments (tokens script)).1 = front ++ segment :: back) :
    Cursor.IsFresh (front.flatMap (·.tokens)).reverse := by
  rcases front_eq_nil_or_exists_markedBy h with
    rfl | ⟨init, last, first, t, post, rfl, hmarked, -⟩
  · simp [Cursor.IsFresh]
  · have hcomments : ∀ v ∈ trailingComments post, v.isSignificant = false :=
      fun v hv => isSignificant_of_mem_trailingComments hv
    have hsig := Token.isSignificant_of_mark hmarked.kind
    intro u hu
    rw [significant_reverse, List.head?_reverse, List.flatMap_append, List.flatMap_singleton,
      hmarked.segment, significant_append, significant_append_cons first hsig hcomments,
      ← List.append_assoc, List.getLast?_concat, Option.mem_some_iff] at hu
    exact hu ▸ hmarked.kind

theorem passed_nil : Passed [] [] := by
  refine ⟨startsPlain_nil, by simp, {}, rfl, rfl⟩

theorem isTerminator_append_of_significant (hxs : significant xs ≠ [])
    (hlayout : ∀ v ∈ layout, v.isSignificant = false)
    (h : Cursor.isTerminator ⟨xs.reverse, m, layout⟩ = true) (before : List Token) :
    Cursor.isTerminator ⟨xs.reverse ++ before, m, layout⟩ = true := by
  have hm : m.kind = .terminator ∨ m.kind = .separator := (Cursor.kind_of_isTerminator h).symm
  have hreverse : significant xs.reverse ≠ [] := by
    rwa [significant_reverse, ne_eq, List.reverse_eq_nil_iff]
  rw [isTerminator_iff_of_layout hlayout hm] at h ⊢
  rwa [startsLine_append_of_significant hreverse]

theorem mem_head?_cases (hm : m.isSignificant = true)
    (ht : t ∈ (significant (rest ++ m :: post)).head?) :
    t ∈ significant rest ∨ significant rest = [] ∧ t = m := by
  rw [significant_append, significant_cons, if_pos hm] at ht
  cases hrest : significant rest with
  | nil =>
    rw [hrest, List.nil_append, List.head?_cons, Option.mem_some_iff] at ht
    exact .inr ⟨rfl, ht.symm⟩
  | cons v more =>
    rw [hrest, List.cons_append, List.head?_cons, Option.mem_some_iff] at ht
    simp [ht]

theorem startsPlain_of_idle (hread : tokens s = first ++ rest ++ m :: layout)
    (hm : m.kind = .terminator ∨ m.kind = .separator)
    (hidle : ∀ v ∈ significant rest, v = ⟨.other, ['-']⟩ ∨ v.kind = .terminator)
    (post : List Token) : StartsPlain (rest ++ m :: post) := by
  have hmark {v : Token} (hv : v ∈ tokens s) (hk : v.kind = .terminator ∨ v.kind = .separator) :
      v.keyword = .plain ∧ v.text ≠ ['.'] := by
    refine ⟨Token.keyword_of_mark hk, fun hdot => ?_⟩
    simp [kind_of_dot hv hdot] at hk
  intro u hu
  rcases mem_head?_cases (Token.isSignificant_of_mark hm) hu with hu | ⟨-, rfl⟩
  · have hmem : u ∈ rest := List.mem_of_mem_filter hu
    rcases hidle u hu with rfl | hk
    · exact ⟨rfl, by simp⟩
    · exact hmark (by simp [hread, hmem]) (.inl hk)
  · exact hmark (by simp [hread]) hm

theorem exists_passed_of_ended (hb : Cursor.IsFresh before)
    (hread : tokens s = first ++ m :: layout)
    (hlayout : ∀ v ∈ layout, v.isSignificant = false)
    (hpass : ({} : Nesting).pass? (cursorsBetween before first (m :: post)) = some state)
    (hcan : state.canTerminate = true)
    (hterm : Cursor.isTerminator ⟨first.reverse ++ before, m, post⟩ = true)
    (hslash : ∀ t ∈ (significant (tokens (stripTerminator s))).head?, t.kind ≠ .separator) :
    ∃ mid after, Passed mid after ∧ outline (tokens (stripTerminator s)) = outline mid := by
  have hm : m.kind = .terminator ∨ m.kind = .separator := (Cursor.kind_of_isTerminator hterm).symm
  obtain ⟨kept, hkept⟩ := exists_keptBefore m first
  have hstrip : stripTerminator s = textOf (kept ++ layout) := by
    rw [stripTerminator_of_tokens hread hlayout hm hkept, if_pos]
    exact (isTerminator_iff_of_layout hlayout hm).1 (isTerminator_left hterm hlayout)
  obtain ⟨mid, rest, rfl, houtline, hidle, hpair⟩ := exists_outline_strip hread hm hlayout hkept
  rw [← hstrip] at houtline
  rw [significant_eq_of_outline houtline] at hslash
  have hplain := startsPlain_of_idle hread hm hidle post
  refine ⟨mid, rest ++ m :: post, ⟨hplain, fun u hu hk => ?_, state, ?_, hcan⟩, houtline⟩
  · rcases mem_head?_cases (Token.isSignificant_of_mark hm) hu with hu | ⟨hnil, rfl⟩
    · rcases hidle u hu with rfl | hk'
      · cases hk
      · rw [hk] at hk'
        cases hk'
    · exact hpair hnil hk
  · rw [cursorsBetween_append, pass?_append, Option.bind_eq_some_iff] at hpass
    obtain ⟨inner, hpass, hlater⟩ := hpass
    obtain rfl := eq_of_pass?_idle hidle hlater
    rwa [← pass?_of_isFresh hb hslash]

/-- What is left of a segment has been passed, if nothing is open at the end of the script. -/
theorem exists_passed (hcan : (segments (tokens script)).2.canTerminate = true)
    (h : (segments (tokens script)).1 = front ++ segment :: back)
    (hslash : ∀ t ∈ (significant (tokens (stripTerminator (textOf segment.tokens)))).head?,
      t.kind ≠ .separator) :
    ∃ mid after, Passed mid after ∧
      outline (tokens (stripTerminator (textOf segment.tokens))) = outline mid := by
  have hread := tokens_textOf_segment h
  have hfresh := isFresh_front h
  have hcut := cut_of_segments [] (tokens script) h
  rw [List.append_nil] at hcut
  rcases cut_cases {} (front.flatMap (·.tokens)).reverse []
      (segment.tokens ++ back.flatMap (·.tokens)) with
    ⟨first, m, post, state, hrest, hpass, hopen, hterm, count, hcut'⟩ | ⟨state, count, hpass, hcut'⟩
  · rw [hcut, Prod.mk.injEq, List.cons.injEq] at hcut'
    obtain ⟨⟨rfl, -⟩, -⟩ := hcut'
    have hcomments : ∀ v ∈ trailingComments post, v.isSignificant = false :=
      fun v hv => isSignificant_of_mem_trailingComments hv
    exact exists_passed_of_ended hfresh hread hcomments hpass hopen hterm hslash
  · rw [hcut, Prod.mk.injEq, List.cons.injEq] at hcut'
    obtain ⟨⟨hsegment, rfl⟩, hending⟩ := hcut'
    rw [List.flatMap_nil, List.append_nil] at hpass
    have hopen : state.canTerminate = true := by
      rw [← hending]
      exact hcan
    by_cases hnil : significant (tokens (stripTerminator (textOf segment.tokens))) = []
    · exact ⟨[], [], passed_nil, outline_of_significant_eq_nil hnil⟩
    rcases stripTerminator_cases (textOf segment.tokens) with
      hsame | ⟨xs, mark, layout, kept, htokens, hmark, hlayout, hkept, hterm, hstrip⟩
    · rw [hsame, hread] at hslash ⊢
      refine ⟨segment.tokens, [], ⟨startsPlain_nil, by simp, state, ?_, hopen⟩, rfl⟩
      rwa [← pass?_of_isFresh hfresh hslash]
    · obtain ⟨mid, rest, rfl, houtline, -⟩ := exists_outline_strip htokens hmark hlayout hkept
      rw [← hstrip] at houtline
      rw [significant_eq_of_outline houtline] at hnil
      have hxs : significant (mid ++ rest) ≠ [] := by simp [hnil]
      rw [← hread, htokens] at hpass
      exact absurd (isTerminator_append_of_significant hxs hlayout hterm _)
        (not_isTerminator_of_pass? hpass hopen hlayout (by simp))

theorem isLiteral_of_mem (h : t ∈ tokens s) (hk : t.kind = .stringLiteral ∨ t.kind = .quotedName) :
    IsLiteral t := by
  refine ⟨hk, fun hdot => ?_⟩
  simp [kind_of_dot h hdot] at hk

theorem unended_trim (h : Passed mid after) (houtline : outline (tokens s) = outline mid)
    (hslash : ∀ t ∈ (significant (tokens s)).head?, t.kind ≠ .separator) :
    Unended (tokens (Text.trim s)) := by
  rcases tokens_trim s with ⟨-, hnil⟩ | ⟨gap, ts, hs, hgap, hcut⟩
  · rw [hnil]
    exact unended_of_layout (by simp)
  have hts : outline ts = outline mid := by
    rw [hs, significant_append, significant_eq_nil hgap, List.nil_append] at hslash
    rw [← houtline, hs, outline, outline, outlineFrom_layout hgap]
    exact (outlineFrom_eq_outline hslash _).symm
  rcases hcut.outline_cases with hsame | ⟨xs, t, t', layout, hus, rfl, hlayout, hkind, hliteral⟩
  · exact h.unended.of_outline (hsame.trans hts)
  · have ht : IsLiteral t := isLiteral_of_mem (s := s) (by simp [hs]) hliteral
    have ht' : IsLiteral t' :=
      isLiteral_of_mem (s := Text.trim s) (by simp [hus]) (hkind.symm ▸ hliteral)
    have hmid : significant mid = significant xs ++ t :: [] := by
      rw [← significant_eq_of_outline hts, significant_append_cons xs ht.isSignificant hlayout]
    obtain ⟨mid, others, rfl, -, hothers⟩ := exists_append_of_significant_eq hmid
    have hgap' := isSignificant_of_significant_eq_nil hothers
    rw [ht.outline_append hlayout, ht.outline_append hgap'] at hts
    refine (h.unended_of_literal hgap' ht ht').of_outline ?_
    rw [hus, ht'.outline_append (by simp), ht'.outline_append (by simp),
      List.append_cancel_right hts]

theorem Unended.stripTerminator_eq (h : Unended (tokens s)) : stripTerminator s = s := by
  rcases stripTerminator_cases s with
    hsame | ⟨xs, mark, layout, kept, hs, hmark, hlayout, -, hterm, -⟩
  · exact hsame
  · have hlast := h.last
    rw [hs, getLast?_significantRoles (Token.isSignificant_of_mark hmark) hlayout,
      Role.ofCursor_of_describes (r := .terminator) hterm] at hlast
    exact absurd rfl hlast

theorem Unended.segments_eq (h : Unended ts) : ∃ count, (segments ts).1 = [⟨ts, count⟩] := by
  obtain ⟨ending, hpass⟩ := h.pass
  have hcursors := cursors_append ts []
  rw [List.append_nil, cursorsFrom, List.append_nil] at hcursors
  rw [hcursors] at hpass
  have hcut := cut_of_pass? [] [] hpass
  rw [List.append_nil, List.append_nil] at hcut
  refine ⟨ending.placeholders, ?_⟩
  rw [segments, hcut, cut, List.reverse_reverse]

/-- A trimmed text that ends no statement is split into itself. -/
theorem Unended.texts_eq (h : Unended (tokens s)) (hblank : isBlank s = false)
    (htrim : Text.trim s = s) : (split ⟨false, false, true, false⟩ s).texts = [s] := by
  obtain ⟨count, hsegments⟩ := h.segments_eq
  have htext : Segment.text ⟨tokens s, count⟩ true = s := by
    rw [Segment.text_true, textOf_tokens]
  rw [texts_split, hsegments]
  simp [htext, hblank, Options.trim, h.stripTerminator_eq, htrim]

/-- With its comments kept a statement of a script that leaves nothing open is split into itself, if
it does not start with a slash. -/
theorem texts_of_statement
    (hcan : (({} : Nesting).run (cursors (tokens script))).canTerminate = true)
    (hs : s ∈ (split ⟨false, false, true, false⟩ script).texts)
    (hslash : ∀ t ∈ (significant (tokens s)).head?, t.kind ≠ .separator) :
    (split ⟨false, false, true, false⟩ s).texts = [s] := by
  rw [texts_split, List.mem_map] at hs
  obtain ⟨segment, hsegment, rfl⟩ := hs
  obtain ⟨hsegment, hkept⟩ := List.mem_filter.1 hsegment
  obtain ⟨front, back, hsegments⟩ := List.append_of_mem hsegment
  have hending : (segments (tokens script)).2.canTerminate = true := by
    rwa [segments, ← run_cursorsFrom_eq_cut]
  have htrim : Options.trim ⟨false, false, true, false⟩ (segment.text true) =
      Text.trim (stripTerminator (textOf segment.tokens)) := by
    rw [Segment.text_true]
    rfl
  have hblank : isBlank (Options.trim ⟨false, false, true, false⟩ (segment.text true)) = false := by
    rw [← Bool.not_eq_true, ← content_eq_nil_iff, Options.content_trim, content_eq_nil_iff]
    simpa using hkept
  rw [htrim] at hblank hslash ⊢
  -- White space around the statement does not change the kind of its first token.
  have hslash' := head?_of_trim hslash
  obtain ⟨mid, after, hpassed, houtline⟩ := exists_passed hending hsegments hslash'
  exact (unended_trim hpassed houtline hslash').texts_eq hblank (trim_trim _)

theorem texts_of_statement_of_slash :
    (({} : Nesting).run
        (cursors (tokens "BEGIN a; END -- one\n;\n/\nb;".toList))).canTerminate = true ∧
      "BEGIN a; END -- one".toList ∈
        (split ⟨false, false, true, false⟩ "BEGIN a; END -- one\n;\n/\nb;".toList).texts ∧
      (split ⟨false, false, true, false⟩ "BEGIN a; END -- one".toList).texts =
        ["BEGIN a; END -- one".toList] := by
  have hcan : (({} : Nesting).run
      (cursors (tokens "BEGIN a; END -- one\n;\n/\nb;".toList))).canTerminate = true := by
    decide +kernel
  have hs : "BEGIN a; END -- one".toList ∈
      (split ⟨false, false, true, false⟩ "BEGIN a; END -- one\n;\n/\nb;".toList).texts := by
    decide +kernel
  have hslash : ∀ t ∈ (significant (tokens "BEGIN a; END -- one".toList)).head?,
      t.kind ≠ .separator := by
    decide +kernel
  exact ⟨hcan, hs, texts_of_statement hcan hs hslash⟩

end SqlScript
