import SqlScript.Proofs.CommentRemoval
import SqlScript.Proofs.Excerpts

namespace SqlScript

open Lexer Scan

variable {o : Options} {script : List Char} {front back : List Segment} {segment : Segment}
  {first post kept xs layout : List Token} {t : Token}

theorem Segment.text_true (segment : Segment) : segment.text true = textOf segment.tokens :=
  congrArg textOf (List.filter_eq_self.2 fun _ _ => rfl)

/-- The text of a segment is read alone as it is read in the script. -/
theorem tokens_textOf_segment (h : (segments (tokens script)).1 = front ++ segment :: back) :
    tokens (textOf segment.tokens) = segment.tokens := by
  have hscript := eq_append_of_segments h
  apply tokens_excerpt hscript
  intro hbracket
  have hreads := reads_tokensAfter none script
  rw [← tokens, hscript] at hreads
  cases hsegment : segment.tokens with
  | nil => simp [hsegment, textOf] at hbracket
  | cons b ts =>
    rw [hsegment] at hreads hbracket
    have hb : b.text ≠ [] := hreads.of_append.2.text_ne_nil b (by simp)
    rw [textOf_cons, List.head?_append_of_ne_nil _ hb] at hbracket
    exact not_takesSubscript_of_reads hreads (kind_of_front h) hbracket

/-- A statement that is read as the tokens up to a mark and layout loses the mark, and with a slash
the semicolon before it, if the mark is a terminator there. -/
theorem stripTerminator_of_tokens {s : List Char} (hs : tokens s = xs ++ t :: layout)
    (hlayout : ∀ u ∈ layout, u.isSignificant = false)
    (ht : t.kind = .terminator ∨ t.kind = .separator) (hkept : KeptBefore t xs kept) :
    stripTerminator s =
      if t.kind = .terminator ∨ Cursor.startsLine xs.reverse = true then textOf (kept ++ layout)
      else s := by
  rw [stripTerminator, hs, dropTerminator_append hlayout (Token.isSignificant_of_mark ht) hkept,
    apply_ite textOf, ← hs, textOf_tokens]
  simp only [isTerminator_iff_of_layout hlayout ht]

/-- With its comments each entry of a split is read alone as it is read in the script, and one that
was ended by a terminator loses just that, and with a slash the semicolon before it. -/
theorem stripTerminator_entry (hkeep : o.keepComments = true)
    (h : (segments (tokens script)).1 = front ++ segment :: back) :
    ∃ entry, (o.raw (segments (tokens script)).1)[front.length]? = some entry ∧
      tokens entry.text = segment.tokens ∧
      List.Forall₂ (ShiftedBy (textOf (front.flatMap (·.tokens))).length)
        ((placedTokens script).extract (front.flatMap (·.tokens)).length
          ((front.flatMap (·.tokens)).length + segment.tokens.length))
        (placedTokens entry.text) ∧
      (back ≠ [] → ∃ first t post kept, MarkedBy (tokens script) front segment first t post ∧
        KeptBefore t (front.flatMap (·.tokens) ++ first) (front.flatMap (·.tokens) ++ kept) ∧
        stripTerminator entry.text = textOf (kept ++ trailingComments post)) := by
  have hread := tokens_textOf_segment h
  have htext : segment.text o.keepComments = textOf segment.tokens := by
    rw [Segment.text, hkeep]
    exact congrArg textOf (List.filter_eq_self.2 fun u _ => rfl)
  refine ⟨segment.statement o.keepComments, by simp [Options.raw, h], ?_⟩
  rw [Segment.statement, htext]
  refine ⟨hread, shiftedBy_placedTokens (eq_append_of_segments h) hread, fun hback => ?_⟩
  obtain ⟨first, t, post, hmarked⟩ := exists_markedBy h hback
  obtain ⟨kept, hkept⟩ := exists_keptBefore t first
  have hcomments : ∀ u ∈ trailingComments post, u.isSignificant = false :=
    fun u hu => isSignificant_of_mem_trailingComments hu
  have hend : Cursor.isTerminator ⟨first.reverse, t, trailingComments post⟩ = true := by
    have hend := hmarked.isTerminator
    rw [List.reverse_append] at hend
    exact isTerminator_left hend hcomments
  refine ⟨first, t, post, kept, hmarked, hmarked.keptBefore_front h hkept, ?_⟩
  rw [stripTerminator_of_tokens (hread.trans hmarked.segment) hcomments hmarked.kind hkept,
    if_pos ((isTerminator_iff_of_layout hcomments hmarked.kind).1 hend)]

theorem stripTerminator_entry_of_slash :
    ∃ entry, (Options.verbatim.raw (segments (tokens "SELECT 1;\n/ -- one\n2".toList)).1)[0]? =
        some entry ∧
      tokens entry.text = tokens "SELECT 1;\n/ -- one".toList ∧
      ∃ first t post kept,
        MarkedBy (tokens "SELECT 1;\n/ -- one\n2".toList) []
          ⟨tokens "SELECT 1;\n/ -- one".toList, 0⟩ first t post ∧
        KeptBefore t first kept ∧
        stripTerminator entry.text = textOf (kept ++ trailingComments post) := by
  have hsegments : (segments (tokens "SELECT 1;\n/ -- one\n2".toList)).1 =
      [] ++ ⟨tokens "SELECT 1;\n/ -- one".toList, 0⟩ :: [⟨tokens "\n2".toList, 0⟩] := by
    decide +kernel
  obtain ⟨entry, hentry, hread, -, hend⟩ := stripTerminator_entry (o := .verbatim) rfl hsegments
  exact ⟨entry, hentry, hread, hend (by simp)⟩

theorem KeptBefore.withoutComments (h : KeptBefore t xs kept) :
    KeptBefore t (withoutComments xs) (withoutComments kept) := by
  cases h with
  | all h =>
    apply KeptBefore.all
    rwa [significant_withoutComments]
  | @butSemicolon xs u gap ht hu hgap =>
    have hcomment : ¬ u.isComment = true := by simp [Token.isComment, hu]
    rw [withoutComments_append, withoutComments_append, withoutComments_cons, if_neg hcomment]
    exact .butSemicolon ht hu fun v hv => hgap v (List.mem_filter.1 hv).1

/-- Without its comments, if they can be left out, an ended statement loses just the mark that ended
it if that is a semicolon or still the first on its line; any other slash stays. -/
theorem texts_of_ended (h : (segments (tokens script)).1 = front ++ segment :: back)
    (hback : back ≠ []) (hrem : CommentsRemovable segment.tokens) :
    ∃ first t post kept, MarkedBy (tokens script) front segment first t post ∧
      KeptBefore t (front.flatMap (·.tokens) ++ first) (front.flatMap (·.tokens) ++ kept) ∧
      (split ⟨false, true, false, true⟩ script).texts[front.length]? =
        some (if t.kind = .terminator ∨ Cursor.startsLine (withoutComments first).reverse = true
          then textOf (withoutComments (kept ++ trailingComments post))
          else textOf (withoutComments segment.tokens)) := by
  obtain ⟨first, t, post, hmarked⟩ := exists_markedBy h hback
  obtain ⟨kept, hkept⟩ := exists_keptBefore t first
  refine ⟨first, t, post, kept, hmarked, hmarked.keptBefore_front h hkept, ?_⟩
  have hsig := Token.isSignificant_of_mark hmarked.kind
  have hcomment : ¬ t.isComment = true := fun hc => by simp [Token.isSignificant, hc] at hsig
  have hsegment : withoutComments segment.tokens =
      withoutComments first ++ t :: withoutComments (trailingComments post) := by
    rw [hmarked.segment, withoutComments_append, withoutComments_cons, if_neg hcomment]
  -- The tokens of the text, with the mark among them.
  obtain ⟨us, layout, hread, hus, hlayout⟩ :=
    (respaced_tokens_withoutComments (eq_append_of_segments h) (kind_of_front h) hrem).exists_append
      hsegment hsig
  obtain ⟨kept', hkept', htext⟩ := hus.keptBefore hkept.withoutComments
  have hcomments : ∀ u ∈ layout, u.isSignificant = false :=
    hlayout.isSignificant_of_layout fun u hu =>
      isSignificant_of_mem_trailingComments (List.mem_filter.1 hu).1
  have hstrip : stripTerminator (textOf (withoutComments segment.tokens)) =
      if t.kind = .terminator ∨ Cursor.startsLine (withoutComments first).reverse = true
        then textOf (withoutComments (kept ++ trailingComments post))
        else textOf (withoutComments segment.tokens) := by
    rw [stripTerminator_of_tokens hread hcomments hmarked.kind hkept', hus.startsLine,
      textOf_append, htext, hlayout.textOf_eq, withoutComments_append, textOf_append]
  have hall : (segments (tokens script)).1.filter
      (fun segment => true || !isBlank (segment.text false)) = (segments (tokens script)).1 :=
    List.filter_eq_self.2 fun _ _ => rfl
  have htrim : Options.trim ⟨false, true, false, true⟩ (segment.text false) =
      stripTerminator (textOf (withoutComments segment.tokens)) := rfl
  rw [texts_split, hall, h, ← hstrip, ← htrim]
  simp

theorem texts_of_ended_of_comment :
    CommentsRemovable (tokens "SELECT 1 /* one */;".toList) ∧
      ∃ first t post kept,
        MarkedBy (tokens "SELECT 1 /* one */; SELECT 2".toList) []
          ⟨tokens "SELECT 1 /* one */;".toList, 0⟩ first t post ∧
        KeptBefore t first kept ∧
        (split ⟨false, true, false, true⟩ "SELECT 1 /* one */; SELECT 2".toList).texts[0]? =
          some (if t.kind = .terminator ∨ Cursor.startsLine (withoutComments first).reverse = true
            then textOf (withoutComments (kept ++ trailingComments post))
            else textOf (withoutComments (tokens "SELECT 1 /* one */;".toList))) := by
  have hsegments : (segments (tokens "SELECT 1 /* one */; SELECT 2".toList)).1 =
      [] ++ ⟨tokens "SELECT 1 /* one */;".toList, 0⟩ :: [⟨tokens " SELECT 2".toList, 0⟩] := by
    decide +kernel
  have hrem : CommentsRemovable (tokens "SELECT 1 /* one */;".toList) := by decide +kernel
  exact ⟨hrem, texts_of_ended hsegments (by simp) hrem⟩

/-- The line feed of a comment makes the slash behind it a separator. Without the comment the slash
is none, and it stays in the statement that it ended. -/
theorem slash_behind_comment_left :
    boundaries (tokens "SELECT 1 /*\n*/ /\nSELECT 2".toList) = [6] ∧
      (tokens "SELECT 1 /*\n*/ /\nSELECT 2".toList)[6]? = some ⟨.separator, ['/']⟩ ∧
      (split ⟨false, true, false, true⟩ "SELECT 1 /*\n*/ /\nSELECT 2".toList).texts =
        ["SELECT 1  /".toList, "\nSELECT 2".toList] := by
  decide +kernel

end SqlScript
