import SqlScript.Proofs.Concatenation
import SqlScript.Proofs.Stripping
import SqlScript.Proofs.Terminators

namespace SqlScript

open Lexer Scan

variable {o : Options} {script : List Char} {front back : List Segment} {segment next : Segment}
  {ts gap later : List Token} {u : Token} {previous : Option Char}

theorem isComment_of_getLast?_trailingComments (ts : List Token) :
    ∀ u ∈ (trailingComments ts).getLast?, u.isComment = true := by
  intro u hu
  fun_induction trailingComments ts with
  | case1 => cases hu
  | case2 t rest hk =>
    obtain rfl : t = u := by simpa using hu
    simp [Token.isComment, hk]
  | case3 => cases hu
  | case4 t rest hk _ ih =>
    rw [List.getLast?_cons] at hu
    cases hlast : (trailingComments rest).getLast? with
    | none =>
      obtain rfl : t = u := by simpa [hlast] using hu
      simp [Token.isComment, hk]
    | some v =>
      obtain rfl : v = u := by simpa [hlast] using hu
      exact ih hlast
  | case5 => cases hu
  | case6 => cases hu
  | case7 t rest _ _ hne ih =>
    rw [List.getLast?_cons_of_ne_nil hne] at hu
    exact ih hu
  | case8 => cases hu

theorem hasNewline_of_lineComment {t : Token} {s rest : List Char}
    (h : next? previous s = some (t, rest)) (ht : t.kind = .lineComment) :
    t.hasNewline = false := by
  obtain ⟨body, htext, hbody, -⟩ := lineComment_of_next? h ht
  simpa [Token.hasNewline, htext] using hbody

theorem hasNewline_of_mem_trailingComments (hreads : Reads previous ts []) :
    ∀ u ∈ trailingComments ts, u.hasNewline = false := by
  fun_induction trailingComments ts generalizing previous with
  | case1 => simp
  | case2 t rest hk =>
    cases hreads with
    | cons ht _ => simpa using hasNewline_of_lineComment ht hk
  | case3 => simp
  | case4 t rest _ hline ih =>
    cases hreads with
    | cons _ hrest => exact List.forall_mem_cons.2 ⟨Bool.eq_false_iff.2 hline, ih hrest⟩
  | case5 => simp
  | case6 => simp
  | case7 t rest _ hline _ ih =>
    cases hreads with
    | cons _ hrest => exact List.forall_mem_cons.2 ⟨Bool.eq_false_iff.2 hline, ih hrest⟩
  | case8 => simp

theorem startsWithLine_behind_lineComment {t : Token} (hreads : Reads previous (t :: ts) [])
    (ht : t.kind = .lineComment) : StartsWithLine ts := by
  cases hreads with
  | cons hnext hrest =>
    have hread := tokensAfter_of_reads hrest
    rw [List.append_nil, tokensAfter_nil, List.append_nil] at hread
    obtain ⟨-, -, -, hline⟩ := lineComment_of_next? hnext ht
    rw [List.append_nil] at hline
    rw [← hread]
    exact startsWithLine_tokensAfter _ hline

theorem space_or_eq_of_gap {t : Token} {rest : List Token} (h : t :: rest = gap ++ u :: later)
    (hgap : ∀ v ∈ gap, v.kind = .space ∧ v.hasNewline = false) :
    t.kind = .space ∧ t.hasNewline = false ∧
        (∃ gap', rest = gap' ++ u :: later ∧ ∀ v ∈ gap', v.kind = .space ∧ v.hasNewline = false) ∨
      t = u := by
  cases gap with
  | nil => exact .inr (List.cons.inj h).1
  | cons v gap' =>
    obtain ⟨rfl, hrest⟩ := List.cons.inj h
    obtain ⟨ht, hgap'⟩ := List.forall_mem_cons.1 hgap
    exact .inl ⟨ht.1, ht.2, gap', hrest, hgap'⟩

/-- Behind the trailing comments, and behind white space without a line feed, the only comment is
one over several lines. -/
theorem kind_behind_trailingComments (hreads : Reads previous ts [])
    (heq : ts = trailingComments ts ++ (gap ++ u :: later))
    (hgap : ∀ v ∈ gap, v.kind = .space ∧ v.hasNewline = false) (hu : u.isComment = true) :
    u.kind = .blockComment ∧ u.hasNewline = true := by
  fun_induction trailingComments ts generalizing previous gap with
  | case1 => simp at heq
  | case2 t rest hk =>
    have hrest : rest = gap ++ u :: later := by simpa using heq
    rcases startsWithLine_behind_lineComment hreads hk with rfl | ⟨spaces, more, rfl⟩
    · simp at hrest
    · rcases space_or_eq_of_gap hrest hgap with ⟨-, hline, -⟩ | rfl
      · simp [Token.hasNewline] at hline
      · cases hu
  | case3 t rest hk hline =>
    rcases space_or_eq_of_gap heq hgap with ⟨hk', -⟩ | rfl
    · simp [hk] at hk'
    · exact ⟨hk, hline⟩
  | case4 t rest hk hline ih =>
    cases hreads with
    | cons _ hrest => exact ih hrest (List.cons.inj heq).2 hgap
  | case5 t rest hk hline =>
    rcases space_or_eq_of_gap heq hgap with ⟨-, hline', -⟩ | rfl
    · simp [hline] at hline'
    · simp [Token.isComment, hk] at hu
  | case6 t rest hk hline hnil ih =>
    rcases space_or_eq_of_gap heq hgap with ⟨-, -, ⟨gap', hrest, hgap'⟩⟩ | rfl
    · cases hreads with
      | cons _ hreads => exact ih hreads (by rwa [hnil]) hgap'
    · simp [Token.isComment, hk] at hu
  | case7 t rest hk hline hne ih =>
    cases hreads with
    | cons _ hrest => exact ih hrest (List.cons.inj heq).2 hgap
  | case8 t rest hline hblock hspace =>
    rcases space_or_eq_of_gap heq hgap with ⟨hk, -⟩ | rfl
    · exact absurd hk hspace
    · rw [Token.isComment, Bool.or_eq_true, beq_iff_eq, beq_iff_eq] at hu
      exact (hu.elim hline hblock).elim

/-- Comments on the line of a terminator go with the statement that it ends, and nothing else does.
With the comments kept, the part of an ended entry behind its terminator has neither a line feed nor
a significant token, and it is empty or ends with a comment. If the entry behind it starts with a
comment, or with one behind white space without a line feed, that comment goes over several
lines. -/
theorem comments_behind_terminator (hkeep : o.keepComments = true)
    (h : (segments (tokens script)).1 = front ++ segment :: next :: back) :
    ∃ entry following first t post tail,
      (o.raw (segments (tokens script)).1)[front.length]? = some entry ∧
      (o.raw (segments (tokens script)).1)[front.length + 1]? = some following ∧
      MarkedBy (tokens script) front segment first t post ∧
      tokens entry.text = first ++ t :: tail ∧
      '\n' ∉ textOf tail ∧
      (∀ u ∈ tail, u.isSignificant = false) ∧
      (∀ u ∈ tail.getLast?, u.isComment = true) ∧
      ∀ gap u later, tokens following.text = gap ++ u :: later →
        (∀ v ∈ gap, v.kind = .space ∧ v.hasNewline = false) → u.isComment = true →
          u.kind = .blockComment ∧ u.hasNewline = true := by
  have hnext : (segments (tokens script)).1 = (front ++ [segment]) ++ next :: back := by simp [h]
  obtain ⟨first, t, post, hmarked⟩ := exists_markedBy h (by simp)
  have htext (segment : Segment) : segment.text o.keepComments = textOf segment.tokens := by
    rw [hkeep, Segment.text_true]
  -- The tokens behind the mark are read in the script.
  have hreads : Reads ((textOf (front.flatMap (·.tokens) ++ (first ++ [t]))).getLast?.or none)
      post [] := by
    have hread := reads_tokensAfter none script
    rw [← tokens, hmarked.script, ← List.singleton_append (x := t), ← List.append_assoc,
      ← List.append_assoc] at hread
    simpa using hread.of_append.2
  have hpost : post = trailingComments post ++ (next.tokens ++ back.flatMap (·.tokens)) := by
    have hscript := hmarked.script.symm.trans (eq_append_of_segments h)
    simpa [hmarked.segment] using hscript
  refine ⟨segment.statement o.keepComments, next.statement o.keepComments, first, t, post,
    trailingComments post, by simp [Options.raw, h], by simp [Options.raw, h], hmarked, ?_, ?_,
    fun u hu => isSignificant_of_mem_trailingComments hu, isComment_of_getLast?_trailingComments
    post, ?_⟩
  · rw [Segment.statement, htext, tokens_textOf_segment h, hmarked.segment]
  · intro hmem
    obtain ⟨u, hu, hnewline⟩ := List.mem_flatMap.1 hmem
    have hline := hasNewline_of_mem_trailingComments hreads u hu
    simp [Token.hasNewline, hnewline] at hline
  · intro gap u later heq hgap hu
    rw [Segment.statement, htext, tokens_textOf_segment hnext] at heq
    have hbehind : post = trailingComments post ++
        (gap ++ u :: (later ++ back.flatMap (·.tokens))) := by
      rwa [heq, List.append_assoc, List.cons_append] at hpost
    exact kind_behind_trailingComments hreads hbehind hgap hu

theorem comments_behind_terminator_of_lines :
    ∃ entry following first t post tail,
      (Options.verbatim.raw (segments (tokens "1; /*a*/ /*b\n*/ 2".toList)).1)[0]? = some entry ∧
      (Options.verbatim.raw (segments (tokens "1; /*a*/ /*b\n*/ 2".toList)).1)[1]? =
        some following ∧
      MarkedBy (tokens "1; /*a*/ /*b\n*/ 2".toList) [] ⟨tokens "1; /*a*/".toList, 0⟩ first t post ∧
      tokens entry.text = first ++ t :: tail ∧
      '\n' ∉ textOf tail ∧
      (∀ u ∈ tail, u.isSignificant = false) ∧
      (∀ u ∈ tail.getLast?, u.isComment = true) ∧
      ∀ gap u later, tokens following.text = gap ++ u :: later →
        (∀ v ∈ gap, v.kind = .space ∧ v.hasNewline = false) → u.isComment = true →
          u.kind = .blockComment ∧ u.hasNewline = true := by
  have hsegments : (segments (tokens "1; /*a*/ /*b\n*/ 2".toList)).1 =
      [] ++ ⟨tokens "1; /*a*/".toList, 0⟩ :: ⟨tokens " /*b\n*/ 2".toList, 0⟩ :: [] := by
    decide +kernel
  exact comments_behind_terminator rfl hsegments

end SqlScript
