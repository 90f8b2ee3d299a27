import SqlScript.Proofs.Reading

namespace SqlScript

namespace Scan

variable {a rest rest' : List Char}

theorem lineComment?_of_head (h : ∀ c ∈ rest'.head?, c ∈ rest.head?)
    (hs : lineComment? (a ++ rest) = some (a, rest)) :
    lineComment? (a ++ rest') = some (a, rest') := by
  unfold lineComment? at hs
  split at hs
  · next s heq =>
    obtain ⟨a, rfl, hrun⟩ := exists_of_opened (Option.some.inj hs)
    have heq' : a ++ rest = s := by simpa using heq
    have hi := splitRun_of_stops (heq' ▸ hrun) fun c hc => .inl (h c hc)
    simp [lineComment?, hi, Split.opened]
  · cases hs

theorem space?_of_head (h : ∀ c ∈ rest'.head?, c ∈ rest.head?)
    (hs : space? (a ++ rest) = some (a, rest)) : space? (a ++ rest') = some (a, rest') := by
  unfold space? at hs
  split at hs
  · cases hs
  · next c s heq =>
    split at hs
    · next hc =>
      obtain ⟨a, rfl, hrun⟩ := exists_of_opened (Option.some.inj hs)
      cases heq
      have hi : splitRun Text.isSpace (a ++ rest') = (a, rest') :=
        splitRun_of_stops hrun fun c hc => .inl (h c hc)
      simp [space?, hc, hi, Split.opened]
    · cases hs

theorem accepts_blockComment? : Accepts blockComment? := by
  intro a rest rest' h hs
  unfold blockComment? at hs
  split at hs
  · next s heq =>
    obtain ⟨a, rfl, hthrough⟩ := exists_of_opened (Option.some.inj hs)
    have heq' : a ++ rest = s := by simpa using heq
    have hi := splitThrough_of_nil (by simp) h.nil (heq' ▸ hthrough)
    simp [blockComment?, hi, Split.opened]
  · cases hs

theorem agrees_of_isPrefix (h : rest' <+: rest) : Agrees rest rest' := by
  induction rest' generalizing rest with
  | nil => exact .stop (by simp)
  | cons c rest' ih =>
    obtain ⟨more, rfl⟩ := h
    exact .cons (ih (List.prefix_append ..))

theorem follows_of_isPrefix (h : rest' <+: rest) : Follows rest rest' :=
  ⟨agrees_of_isPrefix h, fun hnil => List.prefix_nil.1 (hnil ▸ h)⟩

theorem mem_head?_of_isPrefix (h : rest' <+: rest) : ∀ c ∈ rest'.head?, c ∈ rest.head? := by
  intro c hc
  obtain ⟨more, rfl⟩ := h
  simp [Option.mem_def.1 hc]

end Scan

namespace Lexer

open Scan

variable {previous : Option Char} {rest rest' : List Char} {t mark : Token}
  {ts xs ys : List Token}

theorem rules_accept_of_head (previous : Option Char) (hfollows : Follows rest rest')
    (hhead : ∀ c ∈ rest'.head?, c ∈ rest.head?) :
    ∀ rule ∈ rules previous, ∀ a, rule.2 (a ++ rest) = some (a, rest) →
      rule.2 (a ++ rest') = some (a, rest') := by
  simp only [rules, List.forall_mem_cons]
  exact ⟨fun _ => lineComment?_of_head hhead, fun _ => accepts_blockComment? hfollows,
    fun _ => accepts_string? hfollows, fun _ => accepts_dollarString? hfollows,
    fun _ => accepts_quotedName? (by decide) hfollows,
    fun _ => accepts_quotedName? (by decide) hfollows,
    fun _ => accepts_bracketName? previous hfollows, fun _ => accepts_single? _ hfollows,
    fun _ => accepts_single? _ hfollows, fun _ => accepts_single? _ hfollows,
    fun _ => accepts_word? hfollows, fun _ => accepts_number? hfollows,
    fun _ => space?_of_head hhead, fun _ => accepts_anyChar? hfollows, by simp⟩

theorem next?_of_head (h : next? previous (t.text ++ rest) = some (t, rest))
    (hfollows : Follows rest rest') (hhead : ∀ c ∈ rest'.head?, c ∈ rest.head?) :
    next? previous (t.text ++ rest') = some (t, rest') :=
  next?_of_accepts h hfollows.agrees (fun _ => hhead '-') fun rule hmem _ hsplit =>
    rules_accept_of_head previous hfollows hhead rule hmem t.text hsplit

theorem next?_of_mark (h : next? previous (t.text ++ []) = some (t, []))
    (ht : t.kind = .terminator ∨ t.kind = .separator) (hline : ∀ c ∈ rest.head?, c = '\n') :
    next? previous (t.text ++ rest) = some (t, rest) := by
  have hagrees : Agrees [] rest := by
    apply Agrees.stop
    intro c hc
    rw [hline c hc]
    decide
  apply next?_of_accepts h hagrees fun _ hdash => by simpa using hline '-' hdash
  intro rule hmem hkind _
  obtain ⟨mark, hrule, htext⟩ : ∃ mark, rule.2 = single? mark ∧ t.text = [mark] := by
    rcases ht with hk | hk
    · refine ⟨';', ?_, text_of_next?_single h (by simp [rules, hk])⟩
      revert rule
      simp [rules, hk]
    · refine ⟨'/', ?_, text_of_next?_single h (by simp [rules, hk])⟩
      revert rule
      simp [rules, hk]
  rw [hrule, htext]
  simp [single?]

/-- Tokens are read again when the text behind them is cut short. -/
theorem Reads.of_isPrefix (h : Reads previous ts rest) (hstart : rest' <+: rest) :
    Reads previous ts rest' := by
  induction h with
  | nil => exact .nil
  | @cons previous t ts rest ht _ ih =>
    have hlonger : textOf ts ++ rest' <+: textOf ts ++ rest :=
      (List.prefix_append_right_inj _).2 hstart
    exact .cons (next?_of_head ht (follows_of_isPrefix hlonger) (mem_head?_of_isPrefix hlonger))
      (ih hstart)

theorem Reads.of_mark (h : Reads previous (ts ++ [mark]) [])
    (hmark : mark.kind = .terminator ∨ mark.kind = .separator)
    (hline : ∀ c ∈ rest.head?, c = '\n') : Reads previous (ts ++ [mark]) rest := by
  induction ts generalizing previous with
  | nil =>
    cases h with
    | cons ht _ => exact .cons (next?_of_mark ht hmark hline) .nil
  | cons t ts ih =>
    rw [List.cons_append] at h
    cases h with
    | cons ht hts =>
      have hne : textOf (ts ++ [mark]) ≠ [] := by
        simp [textOf_append, textOf_cons, hts.text_ne_nil mark (by simp)]
      have hagrees : Agrees [] rest := .stop fun c hc => by
        rw [hline c hc]
        decide
      have hfollows : Follows (textOf (ts ++ [mark]) ++ []) (textOf (ts ++ [mark]) ++ rest) :=
        ⟨hagrees.append _, fun hnil => absurd (List.append_eq_nil_iff.1 hnil).1 hne⟩
      apply Reads.cons (next?_of_head ht hfollows ?_) (ih hts)
      intro c hc
      rwa [List.head?_append_of_ne_nil _ hne] at hc ⊢

theorem tokensAfter_of_reads (h : Reads previous ts rest) :
    tokensAfter previous (textOf ts ++ rest) =
      ts ++ tokensAfter ((textOf ts).getLast?.or previous) rest := by
  induction h with
  | nil => simp [textOf]
  | @cons previous t ts rest ht _ ih =>
    rw [textOf_cons, List.append_assoc, tokensAfter_of_next? ht, ih, getLast?_append_or,
      getLast?_or_of_ne_nil (text_append_of_next? ht).2]
    rfl

end Lexer

/-- The same token so many characters further on. -/
structure ShiftedBy (distance : Nat) (a b : PlacedToken) : Prop where
  token : a.token = b.token
  offset : a.position.offset = distance + b.position.offset

open Lexer Scan

variable {script first second : List Char} {front ts back xs ys : List Token} {mark : Token}

/-- A part of a script between the ends of two tokens is read as it is read in the script, unless it
starts with the bracket of a subscript. -/
theorem tokens_excerpt (hscript : tokens script = front ++ (ts ++ back))
    (hbracket : (textOf ts).head? = some '[' →
      (textOf front).getLast?.any takesSubscript = false) :
    tokens (textOf ts) = ts := by
  have hreads := reads_tokensAfter none script
  rw [← tokens, hscript] at hreads
  have hts := (hreads.of_append.2.of_append.1).of_isPrefix (List.nil_prefix)
  have hsame : (textOf ts).head? = some '[' →
      (none : Option Char).any takesSubscript =
        ((textOf front).getLast?.or none).any takesSubscript := by
    intro h
    rw [Option.or_none, hbracket h]
    rfl
  have hread := tokensAfter_of_reads hts
  rw [List.append_nil, tokensAfter_nil, List.append_nil] at hread
  rw [tokens, tokensAfter_congr_previous hsame, hread]

theorem offset_after (p : Position) (s : List Char) :
    (p.after s).offset = p.offset + s.length := by
  induction s generalizing p with
  | nil => rfl
  | cons c s ih =>
    have hnext : (p.next c).offset = p.offset + 1 := by
      rw [Position.next]
      split <;> rfl
    rw [Position.after, List.foldl_cons, ← Position.after, ih, hnext, List.length_cons]
    omega

theorem place_append (p : Position) (xs ys : List Token) :
    place p (xs ++ ys) = place p xs ++ place (p.after (textOf xs)) ys := by
  induction xs generalizing p with
  | nil => rfl
  | cons x xs ih =>
    rw [List.cons_append, place, ih, textOf_cons, Position.after, Position.after, Position.after,
      List.foldl_append]
    rfl

theorem length_place (p : Position) (ts : List Token) : (place p ts).length = ts.length := by
  induction ts generalizing p with
  | nil => rfl
  | cons t ts ih => rw [place, List.length_cons, ih, List.length_cons]

theorem shiftedBy_place {distance : Nat} (p q : Position) (h : p.offset = distance + q.offset) :
    List.Forall₂ (ShiftedBy distance) (place p ts) (place q ts) := by
  induction ts generalizing p q with
  | nil => exact .nil
  | cons t ts ih =>
    refine .cons ⟨rfl, h⟩ (ih _ _ ?_)
    rw [offset_after, offset_after, h, Nat.add_assoc]

theorem shiftedBy_placedTokens (hscript : tokens script = xs ++ (ts ++ ys))
    (hread : tokens (textOf ts) = ts) :
    List.Forall₂ (ShiftedBy (textOf xs).length)
      ((placedTokens script).extract xs.length (xs.length + ts.length))
      (placedTokens (textOf ts)) := by
  have hslice : (placedTokens script).extract xs.length (xs.length + ts.length) =
      place (Position.start.after (textOf xs)) ts := by
    rw [placedTokens, hscript, place_append, place_append, List.extract_eq_take_drop,
      Nat.add_sub_cancel_left, List.drop_left' (length_place ..), List.take_left' (length_place ..)]
  rw [hslice, placedTokens, hread]
  apply shiftedBy_place
  rw [offset_after]
  exact Nat.add_comm ..

/-- A script that ends with a mark and one that starts a line are read alone as they are read
together. -/
theorem tokens_append (hfirst : tokens first = front ++ [mark])
    (hmark : mark.kind = .terminator ∨ mark.kind = .separator)
    (hline : ∀ c ∈ second.head?, c = '\n') :
    tokens (first ++ second) = tokens first ++ tokens second := by
  have hreads := reads_tokensAfter none first
  rw [← tokens, hfirst] at hreads
  have hread := tokensAfter_of_reads (hreads.of_mark hmark hline)
  rw [← hfirst, textOf_tokens] at hread
  rw [tokens, hread, tokensAfter_congr_previous fun h => ?_]
  · rfl
  · exact absurd (hline '[' h) (by decide)

end SqlScript
