import SqlScript.Proofs.LongestMatch
import SqlScript.Proofs.Spacing
import Mathlib.Data.List.Forall2

namespace SqlScript

open Lexer Scan

/-- The tokens that are no comments. -/
def withoutComments (tokens : List Token) : List Token :=
  tokens.filter (!·.isComment)

/-- A token takes up nothing of what follows it without the comments, and does not make a subscript
of a bracket there. It takes up nothing of what follows it with them (`takesUp_of_next?`), so only
comments close behind it can tell. -/
structure StaysApart (t : Token) (post : List Token) : Prop where
  takesUp : t.takesUp (textOf (withoutComments post)) = false
  bracket : post.head?.any (·.isComment) = true →
    (textOf (withoutComments post)).head? = some '[' → t.text.getLast?.any takesSubscript = false

/-- Leaving out the comments does not join tokens. -/
def CommentsRemovable (tokens : List Token) : Prop :=
  ∀ pre t post, tokens = pre ++ t :: post → t.isSignificant = true → StaysApart t post

variable {t : Token} {gap ts : List Token} {previous previous' : Option Char} {rest : List Char}

theorem withoutComments_append (first second : List Token) :
    withoutComments (first ++ second) = withoutComments first ++ withoutComments second :=
  List.filter_append ..

theorem StaysApart.left {others : List Token} (h : StaysApart t (ts ++ others)) :
    StaysApart t ts := by
  have htext : textOf (withoutComments (ts ++ others)) =
      textOf (withoutComments ts) ++ textOf (withoutComments others) := by
    rw [withoutComments_append, textOf_append]
  have htaken := h.takesUp
  rw [htext] at htaken
  refine ⟨takesUp_of_append htaken, fun hcomment hbracket => h.bracket ?_ ?_⟩
  · cases ts with
    | nil => cases hcomment
    | cons u ts => exact hcomment
  · rw [htext, List.head?_append, hbracket, Option.some_or]

theorem CommentsRemovable.tail (h : CommentsRemovable (t :: ts)) : CommentsRemovable ts := by
  rintro pre u post rfl
  exact h (t :: pre) u post rfl

theorem CommentsRemovable.left {others : List Token} (h : CommentsRemovable (ts ++ others)) :
    CommentsRemovable ts := by
  rintro pre u post rfl hu
  exact (h pre u (post ++ others) (by simp) hu).left

theorem commentsRemovable_cons_iff :
    CommentsRemovable (t :: ts) ↔
      (t.isSignificant = true → StaysApart t ts) ∧ CommentsRemovable ts := by
  refine ⟨fun h => ⟨h [] t ts rfl, h.tail⟩, fun ⟨hfirst, hrest⟩ => ?_⟩
  rintro (_ | ⟨_, pre⟩) u post heq
  · obtain ⟨rfl, rfl⟩ := List.cons.inj heq
    exact hfirst
  · obtain ⟨rfl, rfl⟩ := List.cons.inj heq
    exact hrest pre u post rfl

instance (t : Token) (post : List Token) : Decidable (StaysApart t post) :=
  decidable_of_iff (t.takesUp (textOf (withoutComments post)) = false ∧
      (post.head?.any (·.isComment) = true → (textOf (withoutComments post)).head? = some '[' →
        t.text.getLast?.any takesSubscript = false))
    ⟨fun h => ⟨h.1, h.2⟩, fun h => ⟨h.takesUp, h.bracket⟩⟩

instance decidableCommentsRemovable : (ts : List Token) → Decidable (CommentsRemovable ts)
  | [] => isTrue fun pre t post heq => by simp at heq
  | _ :: ts =>
    have := decidableCommentsRemovable ts
    decidable_of_iff _ commentsRemovable_cons_iff.symm

@[simp] theorem withoutComments_nil : withoutComments [] = [] := rfl

theorem withoutComments_cons (t : Token) (ts : List Token) :
    withoutComments (t :: ts) =
      if t.isComment = true then withoutComments ts else t :: withoutComments ts := by
  cases h : t.isComment <;> simp [withoutComments, h]

theorem significant_withoutComments (ts : List Token) :
    significant (withoutComments ts) = significant ts := by
  rw [significant, significant, withoutComments, List.filter_filter]
  congr 1
  funext t
  cases hcomment : t.isComment <;> simp [Token.isSignificant, hcomment]

/-- What the texts of some tokens have in common: they are not empty, and white space is nothing
else. -/
structure AreLexemes (ts : List Token) : Prop where
  ne_nil : ∀ t ∈ ts, t.text ≠ []
  isSpace : ∀ t ∈ ts, t.kind = .space → ∀ c ∈ t.text, Text.isSpace c = true

theorem AreLexemes.tail (h : AreLexemes (t :: ts)) : AreLexemes ts :=
  ⟨fun u hu => h.ne_nil u (by simp [hu]), fun u hu => h.isSpace u (by simp [hu])⟩

theorem next?_withoutComments
    (h : next? previous (t.text ++ (textOf ts ++ rest)) = some (t, textOf ts ++ rest))
    (hrem : CommentsRemovable (t :: ts)) (ht : t.isSignificant = true) :
    next? previous (t.text ++ textOf (withoutComments ts)) =
      some (t, textOf (withoutComments ts)) := by
  refine (next?_iff_takesUp h ht fun hnil => ?_).2 (hrem [] t ts rfl ht).takesUp
  have hempty := List.flatMap_eq_nil_iff.1 (List.append_eq_nil_iff.1 hnil).1
  exact List.flatMap_eq_nil_iff.2 fun u hu => hempty u (List.mem_of_mem_filter hu)

/-- The last character in front of a token, if it is a bracket, makes it a subscript without the
comments if it does so with them. -/
def SamePrevious (previous previous' : Option Char) (ts : List Token) : Prop :=
  ∀ gap b post, ts = gap ++ b :: post → (∀ t ∈ gap, t.isSignificant = false) →
    b.isSignificant = true → b.text.head? = some '[' →
      ((textOf gap).getLast?.or previous).any takesSubscript =
        ((textOf (withoutComments gap)).getLast?.or previous').any takesSubscript

theorem SamePrevious.of_comment (h : SamePrevious previous previous' (t :: ts))
    (ht : t.isComment = true) (hne : t.text ≠ []) :
    SamePrevious t.text.getLast? previous' ts := by
  rintro gap b post rfl hgap hb hbracket
  have hlayout : t.isSignificant = false := by simp [Token.isSignificant, ht]
  have hsame := h (t :: gap) b post rfl (List.forall_mem_cons.2 ⟨hlayout, hgap⟩) hb hbracket
  rwa [withoutComments_cons, if_pos ht, textOf_cons, getLast?_append_or,
    getLast?_or_of_ne_nil hne] at hsame

theorem SamePrevious.of_space (h : SamePrevious previous previous' (t :: ts))
    (ht : t.kind = .space) (hne : t.text ≠ []) :
    SamePrevious t.text.getLast? t.text.getLast? ts := by
  rintro gap b post rfl hgap hb hbracket
  have hlayout : t.isSignificant = false := by simp [Token.isSignificant, ht]
  have hsame := h (t :: gap) b post rfl (List.forall_mem_cons.2 ⟨hlayout, hgap⟩) hb hbracket
  rwa [withoutComments_cons, if_neg (by simp [Token.isComment, ht]), textOf_cons, textOf_cons,
    getLast?_append_or, getLast?_append_or, getLast?_or_of_ne_nil hne,
    getLast?_or_of_ne_nil hne] at hsame

theorem not_takesSubscript_of_reads {front post : List Token} {b : Token}
    (hreads : Reads previous (front ++ b :: post) rest)
    (hlast : ∀ u ∈ front.getLast?, u.kind ∈ gapKinds)
    (hbracket : b.text.head? = some '[') :
    (textOf front).getLast?.any takesSubscript = false := by
  rcases List.eq_nil_or_concat front with rfl | ⟨init, u, rfl⟩
  · rfl
  rw [List.concat_eq_append] at hreads hlast ⊢
  rw [List.append_assoc] at hreads
  cases hreads.of_append.2 with
  | cons hu _ =>
    have hne := (text_append_of_next? hu).2
    rw [textOf_append, List.getLast?_append, textOf_cons, textOf, List.flatMap_nil,
      List.append_nil, getLast?_or_of_ne_nil hne]
    refine not_takesSubscript_of_layout hu (hlast u (by simp)) ?_
    cases hb : b.text with
    | nil => simp [hb] at hbracket
    | cons c text => simpa [textOf_cons, hb] using hbracket

theorem kind_of_layout (ht : t.isSignificant = false) :
    t.kind ∈ gapKinds := by
  simp only [Token.isSignificant, Token.isComment, Bool.not_eq_false', Bool.or_eq_true,
    beq_iff_eq] at ht
  rcases ht with hk | hk | hk <;> simp [hk, gapKinds]

theorem isSpace_of_mem_withoutComments (hlexemes : AreLexemes gap)
    (hgap : ∀ u ∈ gap, u.isSignificant = false) :
    ∀ c ∈ textOf (withoutComments gap), Text.isSpace c = true := by
  intro c hc
  obtain ⟨u, hu, hcu⟩ := List.mem_flatMap.1 hc
  obtain ⟨hmem, hcomment⟩ := List.mem_filter.1 hu
  refine hlexemes.isSpace u hmem ?_ c hcu
  have hlayout := hgap u hmem
  simpa [Token.isSignificant, show u.isComment = false by simpa using hcomment] using hlayout

theorem samePrevious_of_significant (hreads : Reads t.text.getLast? ts rest)
    (hrem : CommentsRemovable (t :: ts)) (ht : t.isSignificant = true) :
    SamePrevious t.text.getLast? t.text.getLast? ts := by
  rintro gap b post rfl hgap hb hbracket
  by_cases hcomments : ∃ u ∈ gap, u.isComment = true
  · obtain ⟨u, hu, -⟩ := hcomments
    have hgapreads := hreads.of_append.1
    have hlexemes : AreLexemes gap := ⟨hgapreads.text_ne_nil, hgapreads.isSpace⟩
    have hne : textOf gap ≠ [] := fun hnil =>
      hlexemes.ne_nil u hu (List.flatMap_eq_nil_iff.1 hnil u hu)
    have hold := not_takesSubscript_of_reads hreads
      (fun v hv => kind_of_layout (hgap v (List.mem_of_getLast? hv))) hbracket
    rw [getLast?_or_of_ne_nil hne, hold]
    have hspaces := any_takesSubscript_getLast? (isSpace_of_mem_withoutComments hlexemes hgap)
    by_cases hnil : textOf (withoutComments gap) = []
    · have hall : ∀ v ∈ gap, v.isComment = true := by
        intro v hv
        by_contra hcomment
        exact hlexemes.ne_nil v hv (List.flatMap_eq_nil_iff.1 hnil v
          (List.mem_filter.2 ⟨hv, by simpa using hcomment⟩))
      have hcomment : ¬ b.isComment = true := fun h => by simp [Token.isSignificant, h] at hb
      have hhead : (textOf (withoutComments (gap ++ b :: post))).head? = some '[' := by
        rw [withoutComments_append, textOf_append, hnil, List.nil_append, withoutComments_cons,
          if_neg hcomment, textOf_cons, List.head?_append, hbracket, Option.some_or]
      rw [hnil]
      refine ((hrem [] t (gap ++ b :: post) rfl ht).bracket ?_ hhead).symm
      cases gap with
      | nil => cases hu
      | cons v gap => exact hall v List.mem_cons_self
    · rw [getLast?_or_of_ne_nil hnil, hspaces]
  · have hkeep : withoutComments gap = gap :=
      List.filter_eq_self.2 fun u hu => by simpa using fun h => hcomments ⟨u, hu, h⟩
    rw [hkeep]

/-- Tokens that are read off a text are read again when their comments are left out, but for the
layout between them, which may be divided otherwise. -/
theorem respaced_tokensAfter_withoutComments (hreads : Reads previous ts rest)
    (hrem : CommentsRemovable ts) (hsame : SamePrevious previous previous' ts) :
    Respaced (tokensAfter previous' (textOf (withoutComments ts))) (withoutComments ts) := by
  have hlexemes : AreLexemes ts := ⟨hreads.text_ne_nil, hreads.isSpace⟩
  induction hreads generalizing previous' with
  | nil => exact .layout (by simp [textOf]) (by simp) (by simp [textOf])
  | @cons previous t ts rest ht hts ih =>
    have hne := hlexemes.ne_nil t (by simp)
    rw [withoutComments_cons]
    by_cases hcomment : t.isComment = true
    -- The comment goes, and what stood before it stands before the next token.
    · rw [if_pos hcomment]
      exact ih hrem.tail (hsame.of_comment hcomment hne) hlexemes.tail
    rw [if_neg hcomment, textOf_cons]
    by_cases hspace : t.kind = .space
    · exact (ih hrem.tail (hsame.of_space hspace hne) hlexemes.tail).spaces hne
        (hlexemes.isSpace t (by simp) hspace) (by simp [Token.isSignificant, hspace])
    have hsig : t.isSignificant = true := by simp [Token.isSignificant, hspace, hcomment]
    have hread := next?_withoutComments ht hrem hsig
    -- The previous character differs from the one in the script, which only a bracket can see.
    have hsame' : (t.text ++ textOf (withoutComments ts)).head? = some '[' →
        previous.any takesSubscript = previous'.any takesSubscript := by
      rw [List.head?_append_of_ne_nil _ hne]
      exact hsame [] t ts rfl (by simp) hsig
    rw [next?_congr_previous hsame'] at hread
    rw [tokensAfter_of_next? hread]
    exact (ih hrem.tail (samePrevious_of_significant hts hrem hsig) hlexemes.tail).token hsig

theorem kind_of_getLast?_append {front : List Token}
    (hfront : ∀ u ∈ front.getLast?, u.kind ∈ gapKinds)
    (hgap : ∀ u ∈ gap, u.isSignificant = false) :
    ∀ u ∈ (front ++ gap).getLast?, u.kind ∈ gapKinds := by
  intro u hu
  rw [List.getLast?_append] at hu
  cases hlast : gap.getLast? with
  | none =>
    rw [hlast] at hu
    exact hfront u hu
  | some v =>
    rw [hlast] at hu
    cases hu
    exact kind_of_layout (hgap u (List.mem_of_getLast? hlast))

theorem kind_of_front {tokens : List Token} {front back : List Segment} {segment : Segment}
    (h : (segments tokens).1 = front ++ segment :: back) :
    ∀ u ∈ (front.flatMap (·.tokens)).getLast?, u.kind ∈ gapKinds := by
  rcases front_eq_nil_or_exists_markedBy h with rfl | ⟨init, last, first, t, post, rfl, hmarked, -⟩
  · simp
  have hkind : ∀ u ∈ (init.flatMap (·.tokens) ++ (first ++ [t])).getLast?, u.kind ∈ gapKinds := by
    rcases hmarked.kind with hk | hk <;> simp [hk, gapKinds]
  have hlist : (init ++ [last]).flatMap (·.tokens) =
      init.flatMap (·.tokens) ++ (first ++ [t]) ++ trailingComments post := by
    simp [hmarked.segment]
  rw [hlist]
  exact kind_of_getLast?_append hkind fun u hu => isSignificant_of_mem_trailingComments hu

theorem respaced_tokens_withoutComments {script : List Char} {front back : List Token}
    (hscript : tokens script = front ++ (ts ++ back))
    (hfront : ∀ u ∈ front.getLast?, u.kind ∈ gapKinds) (hrem : CommentsRemovable ts) :
    Respaced (tokens (textOf (withoutComments ts))) (withoutComments ts) := by
  have hreads := reads_tokensAfter none script
  rw [← tokens, hscript] at hreads
  have hts := hreads.of_append.2.of_append.1
  refine respaced_tokensAfter_withoutComments hts hrem ?_
  rintro gap b post rfl hgap hb hbracket
  have hgapreads := hts.of_append.1
  have hspaces := isSpace_of_mem_withoutComments ⟨hgapreads.text_ne_nil, hgapreads.isSpace⟩ hgap
  have hlist : front ++ (gap ++ b :: post ++ back) = (front ++ gap) ++ b :: (post ++ back) := by
    simp
  have hold := not_takesSubscript_of_reads (hlist ▸ hreads) (kind_of_getLast?_append hfront hgap)
    hbracket
  rw [textOf_append, List.getLast?_append] at hold
  rw [Option.or_none, Option.or_none, hold, any_takesSubscript_getLast? hspaces]

theorem trim_append {s spaces : List Char} (hspaces : ∀ c ∈ spaces, Text.isSpace c = true)
    (hlast : ∀ c ∈ s.getLast?, Text.isSpace c = false) :
    Text.trim (s ++ spaces) = s.dropWhile Text.isSpace := by
  rcases List.eq_nil_or_concat s with rfl | ⟨init, c, rfl⟩
  · have hnil : spaces.dropWhile Text.isSpace = [] := List.dropWhile_eq_nil_iff.2 hspaces
    simp [Text.trim, hnil]
  · have hc : Text.isSpace c = false := hlast c (by simp)
    have hreverse : ∀ d ∈ spaces.reverse, Text.isSpace d = true := fun d hd =>
      hspaces d (List.mem_reverse.1 hd)
    rw [List.concat_eq_append, List.append_assoc, List.cons_append, List.nil_append, Text.trim,
      dropWhile_append_cons hc, dropWhile_append_cons hc, List.reverse_append, List.reverse_cons,
      List.append_assoc, List.dropWhile_append_of_pos hreverse]
    simp [hc]

theorem exists_append_layout (tokens : List Token) :
    ∃ ts layout, tokens = ts ++ layout ∧ (∀ t ∈ layout, t.isSignificant = false) ∧
      (significant tokens).getLast? = ts.getLast? := by
  rcases layout_or_exists_last tokens with hlayout | ⟨ys, u, gap, rfl, hu, hgap⟩
  · exact ⟨[], tokens, rfl, hlayout, by rw [significant_eq_nil hlayout]⟩
  · exact ⟨ys ++ [u], gap, by simp, hgap, by rw [significant_append_cons ys hu hgap]; simp⟩

theorem getLast?_textOf_withoutComments (ts : List Token) (ht : t.isSignificant = true)
    (hne : t.text ≠ []) :
    (textOf (withoutComments (ts ++ [t]))).getLast? = t.text.getLast? := by
  have hcomment : ¬ t.isComment = true := fun h => by simp [Token.isSignificant, h] at ht
  have htext : textOf (withoutComments (ts ++ [t])) = textOf (withoutComments ts) ++ t.text := by
    rw [withoutComments_append, textOf_append, withoutComments_cons, if_neg hcomment]
    simp [textOf]
  rw [htext, List.getLast?_append, getLast?_or_of_ne_nil hne]

/-- The text of a segment without its comments has the significant tokens of the segment, with or
without the white space around it. -/
theorem significant_tokens_text {script : List Char} {segment : Segment}
    (hs : segment ∈ (segments (tokens script)).1) (hrem : CommentsRemovable segment.tokens) :
    significant (tokens (textOf (withoutComments segment.tokens))) =
        significant segment.tokens ∧
      ((∀ t ∈ (significant segment.tokens).getLast?, ∀ c ∈ t.text.getLast?,
          Text.isSpace c = false) →
        significant (tokens (Text.trim (textOf (withoutComments segment.tokens)))) =
          significant segment.tokens) := by
  obtain ⟨front, back, heq⟩ := List.append_of_mem hs
  have hscript := eq_append_of_segments heq
  have hfront := kind_of_front heq
  have hread {ts more : List Token} (htokens : tokens script =
      front.flatMap (·.tokens) ++ (ts ++ more)) (hts : CommentsRemovable ts) :
      significant (tokens (textOf (withoutComments ts))) = significant ts :=
    (respaced_tokens_withoutComments htokens hfront hts).significant_eq.trans
      (significant_withoutComments ts)
  refine ⟨hread hscript hrem, fun hlast => ?_⟩
  obtain ⟨ts, layout, heq, hlayout, hend⟩ := exists_append_layout segment.tokens
  have hreads := reads_tokensAfter none script
  rw [← tokens, hscript, heq, List.append_assoc] at hreads
  rw [hend] at hlast
  rw [heq] at hscript hrem ⊢
  have hts := hread (by simpa using hscript) hrem.left
  have hlexemes := hreads.of_append.2.of_append.2.of_append.1
  have hspaces := isSpace_of_mem_withoutComments ⟨hlexemes.text_ne_nil, hlexemes.isSpace⟩ hlayout
  rw [significant_append, significant_eq_nil hlayout, List.append_nil, withoutComments_append,
    textOf_append, trim_append hspaces ?_]
  · exact (significant_tokensAfter_dropWhile _).trans hts
  intro c hc
  rcases List.eq_nil_or_concat ts with rfl | ⟨init, u, rfl⟩
  · simp [textOf] at hc
  rw [List.concat_eq_append] at hend hlast hc
  have hu : u.isSignificant = true :=
    isSignificant_of_mem_significant (List.mem_of_getLast? (hend.trans (by simp)))
  rw [getLast?_textOf_withoutComments init hu (hreads.of_append.2.text_ne_nil u (by simp))] at hc
  exact hlast u (by simp) c hc

/-- Each statement, split off with its semicolon and without comments, has the significant tokens of
its segment, if none of these takes up what follows it without the comments, and if no white space
is trimmed off the last of them. -/
theorem significant_tokens_texts {o : Options} (script : List Char)
    (hcomments : o.keepComments = false) (hterminator : o.keepTerminator = true) :
    List.Forall₂ (fun text segment =>
        CommentsRemovable segment.tokens →
        (o.keepExtraSpaces = true ∨ ∀ t ∈ (significant segment.tokens).getLast?,
          ∀ c ∈ t.text.getLast?, Text.isSpace c = false) →
        significant (tokens text) = significant segment.tokens)
      (split o script).texts
      ((segments (tokens script)).1.filter fun segment =>
        o.keepEmptyStatements || !isBlank (segment.text false)) := by
  have htext (segment : Segment) :
      segment.text false = textOf (withoutComments segment.tokens) := rfl
  rw [texts_split, hcomments, List.forall₂_map_left_iff, List.forall₂_same]
  intro segment hmem hrem hend
  obtain ⟨hplain, htrim⟩ := significant_tokens_text (List.mem_filter.1 hmem).1 hrem
  rw [Options.trim, htext]
  cases hspaces : o.keepExtraSpaces with
  | true => simpa [hterminator, hspaces] using hplain
  | false => simpa [hterminator, hspaces] using htrim (hend.resolve_left (by simp [hspaces]))

theorem significant_tokens_texts_of_call :
    significant (tokens "CALL f(a, b );".toList) =
      significant (tokens "CALL f(/* first */a, b /* second */);".toList) := by
  have htexts : (split ⟨true, false, false, false⟩
      "CALL f(/* first */a, b /* second */);".toList).texts = ["CALL f(a, b );".toList] := by
    decide +kernel
  have hsegments : ((segments (tokens "CALL f(/* first */a, b /* second */);".toList)).1.filter
      fun segment => false || !isBlank (segment.text false)) =
        [⟨tokens "CALL f(/* first */a, b /* second */);".toList, 0⟩] := by
    decide +kernel
  have hlast : (significant (tokens "CALL f(/* first */a, b /* second */);".toList)).getLast? =
      some ⟨.terminator, [';']⟩ := by
    decide +kernel
  have h := significant_tokens_texts (o := ⟨true, false, false, false⟩)
    "CALL f(/* first */a, b /* second */);".toList rfl rfl
  rw [htexts, hsegments] at h
  cases h with
  | cons h _ =>
    refine h (by decide +kernel) (.inr fun t ht c hc => ?_)
    cases hlast.symm.trans ht
    cases hc
    decide

/-- A comment is not replaced by white space: the words on both sides of it become one. -/
theorem words_around_comment_joined :
    ¬ ∀ (o : Options) (script : List Char), o.keepComments = false → o.keepTerminator = true →
      List.Forall₂ (fun text segment =>
          significant (tokens text) = significant segment.tokens)
        (split o script).texts
        ((segments (tokens script)).1.filter fun segment =>
          o.keepEmptyStatements || !isBlank (segment.text false)) := by
  intro h
  have hjoined := h ⟨true, false, false, false⟩ "SELECT a/**/b;".toList rfl rfl
  revert hjoined
  decide +kernel

end SqlScript
