import SqlScript.Proofs.Stripping
import SqlScript.Proofs.Trimming
import Mathlib.Algebra.GroupWithZero.Nat

namespace SqlScript

open Nesting Lexer

/-- The placeholders among some tokens. -/
def placeholdersIn (tokens : List Token) : Nat :=
  tokens.countP (·.kind == .placeholder)

/-- The slices of a script whose statements a split keeps. -/
def Options.keptSlices (o : Options) (script : List Char) : List (List Token) :=
  (slices (tokens script)).filter fun slice => o.keepEmptyStatements ||
    !isBlank (textOf (slice.filter fun t => o.keepComments || !t.isComment))

variable {o : Options} {script : List Char} {before held rest first second : List Token}
  {ts us layout : List Token} {state : Nesting} {c : Cursor} {t : Token} {segment : Segment}

@[simp] theorem placeholdersIn_nil : placeholdersIn [] = 0 := rfl

@[simp] theorem placeholdersIn_append (first second : List Token) :
    placeholdersIn (first ++ second) = placeholdersIn first + placeholdersIn second :=
  List.countP_append

theorem placeholdersIn_cons (t : Token) (ts : List Token) :
    placeholdersIn (t :: ts) = placeholdersIn ts + if t.kind = .placeholder then 1 else 0 := by
  simp [placeholdersIn, List.countP_cons]

theorem placeholdersIn_reverse (ts : List Token) :
    placeholdersIn ts.reverse = placeholdersIn ts :=
  List.countP_reverse

theorem placeholdersIn_significant (ts : List Token) :
    placeholdersIn (significant ts) = placeholdersIn ts := by
  induction ts with
  | nil => rfl
  | cons t ts ih =>
    rw [significant_cons]
    split
    · rw [placeholdersIn_cons, placeholdersIn_cons, ih]
    · next ht =>
      have hk : t.kind ≠ .placeholder := by
        intro hk
        simp [Token.isSignificant, Token.isComment, hk] at ht
      rw [placeholdersIn_cons, if_neg hk, ih]
      rfl

theorem placeholdersIn_layout (hlayout : ∀ u ∈ layout, u.isSignificant = false) :
    placeholdersIn layout = 0 := by
  rw [← placeholdersIn_significant, significant_eq_nil hlayout]
  rfl

theorem placeholdersIn_flatMap (segments : List Segment) :
    placeholdersIn (segments.flatMap (·.tokens)) =
      (segments.map fun segment => placeholdersIn segment.tokens).sum := by
  induction segments with
  | nil => rfl
  | cons segment rest ih => simp [ih]

namespace Nesting

theorem placeholders_stepAt (h : ¬ (state.stepAt c).2 = true) :
    (state.stepAt c).1.placeholders =
      state.placeholders + if c.token.kind = .placeholder then 1 else 0 := by
  have hiff : Role.ofCursor c = .placeholder ↔ c.token.kind = .placeholder :=
    Role.ofCursor_eq_iff
  rw [stepAt] at h ⊢
  simp only [← hiff]
  cases hr : Role.ofCursor c with
  | terminator =>
    rw [hr, step] at h
    split at h
    · exact absurd rfl h
    · next hopen => simp [step, hopen]
  | closes next => simp [step, placeholders_close]
  | _ => simp [step]

theorem placeholders_stepAt_of_ends (h : (state.stepAt c).2 = true) :
    (state.stepAt c).1.placeholders = 0 ∧ c.token.kind ≠ .placeholder := by
  obtain ⟨hcan, hr⟩ := canTerminate_of_ends h
  have hend : c.isTerminator = true := Role.ofCursor_eq_iff.1 hr
  rw [stepAt, hr, step, if_pos hcan]
  refine ⟨rfl, fun hk => ?_⟩
  rcases Cursor.kind_of_isTerminator hend with hk' | hk' <;> simp [hk] at hk'

end Nesting

/-- Each segment has the count of its own tokens: the nesting has counted those that are held. -/
theorem placeholders_of_mem_cut (state : Nesting) (before held rest : List Token)
    (hheld : state.placeholders = placeholdersIn held) :
    ∀ segment ∈ (cut state before held rest).1,
      segment.placeholders = placeholdersIn segment.tokens := by
  fun_induction cut state before held rest with
  | case1 => simp [hheld, placeholdersIn_reverse]
  | case2 state before held t rest outcome hends comments others ih =>
    obtain ⟨hzero, hk⟩ := placeholders_stepAt_of_ends hends
    have hcomments : placeholdersIn comments = 0 :=
      placeholdersIn_layout fun u hu => isSignificant_of_mem_trailingComments hu
    refine List.forall_mem_cons.2 ⟨?_, ih hzero⟩
    simp [placeholdersIn_reverse, placeholdersIn_cons, hcomments, hheld,
      show t.kind ≠ .placeholder from hk]
  | case3 state before held t rest outcome hends ih =>
    apply ih
    rw [placeholdersIn_cons, ← hheld]
    exact placeholders_stepAt hends

theorem placeholders_of_mem_segments (h : segment ∈ (segments ts).1) :
    segment.placeholders = placeholdersIn segment.tokens :=
  placeholders_of_mem_cut {} [] [] ts rfl segment h

theorem placeholdersIn_of_isBlank (hs : segment ∈ (segments (tokens script)).1)
    (hblank : isBlank (segment.text o.keepComments) = true) :
    placeholdersIn segment.tokens = 0 := by
  obtain ⟨hmarks, -⟩ := (isBlank_text_iff o.keepComments hs).1 hblank
  rw [← placeholdersIn_significant, placeholdersIn, List.countP_eq_zero]
  intro t ht
  rcases hmarks t ht with hk | hk <;> simp [hk]

theorem placeholdersIn_of_outline (h : outline us = outline ts) :
    placeholdersIn us = placeholdersIn ts := by
  rw [← placeholdersIn_significant us, significant_eq_of_outline h, placeholdersIn_significant]

theorem CutShort.placeholdersIn_eq (h : CutShort us ts) :
    placeholdersIn us = placeholdersIn ts := by
  obtain ⟨-, hlayout, -⟩ := h
  simp [placeholdersIn_cons, placeholdersIn_layout hlayout]

theorem placeholdersIn_tokens_trim (s : List Char) :
    placeholdersIn (tokens (Text.trim s)) = placeholdersIn (tokens s) := by
  rcases tokens_trim s with ⟨hlayout, hnil⟩ | ⟨gap, ts, hs, hgap, hcut⟩
  · rw [hnil, placeholdersIn_layout hlayout]
    rfl
  · rw [hcut.placeholdersIn_eq, hs, placeholdersIn_append, placeholdersIn_layout hgap, Nat.zero_add]

/-- The placeholders of a text are those of the text without its terminator. -/
theorem placeholdersIn_tokens_strip (s : List Char) :
    placeholdersIn (tokens (stripTerminator s)) = placeholdersIn (tokens s) := by
  rcases stripTerminator_cases s with h | ⟨xs, mark, layout, kept, hs, hmark, hlayout, hkept, -, h⟩
  · rw [h]
  · obtain ⟨mid, rest, rfl, houtline, hrest, -⟩ := exists_outline_strip hs hmark hlayout hkept
    have hnone : placeholdersIn rest = 0 := by
      rw [← placeholdersIn_significant, placeholdersIn, List.countP_eq_zero]
      intro v hv
      rcases hrest v hv with rfl | hk
      · decide
      · simp [hk]
    have hk : mark.kind ≠ .placeholder := by
      rcases hmark with hk | hk <;> simp [hk]
    rw [h, placeholdersIn_of_outline houtline, hs, placeholdersIn_append, placeholdersIn_append,
      placeholdersIn_cons, hnone, placeholdersIn_layout hlayout, if_neg hk, Nat.add_zero]

theorem placeholdersIn_tokens_of_trim (o : Options) (s : List Char) :
    placeholdersIn (tokens (o.trim s)) = placeholdersIn (tokens s) := by
  rw [Options.trim]
  split <;> split <;>
    simp only [placeholdersIn_tokens_trim, placeholdersIn_tokens_strip]

theorem keptSlices_eq (o : Options) (script : List Char) :
    o.keptSlices script = ((segments (tokens script)).1.filter fun segment =>
      o.keepEmptyStatements || !isBlank (segment.text o.keepComments)).map (·.tokens) := by
  rw [Options.keptSlices, ← tokens_segments_eq_slices, List.filter_map]
  rfl

theorem counts_split_eq (o : Options) (script : List Char) :
    (split o script).counts = (o.keptSlices script).map placeholdersIn := by
  have hcounts : (split o script).counts = ((segments (tokens script)).1.filter fun segment =>
      o.keepEmptyStatements || !isBlank (segment.text o.keepComments)).map (·.placeholders) := by
    rw [Splitting.counts, split, Options.statements, Options.raw, List.filter_map, List.map_map,
      List.map_map]
    rfl
  rw [hcounts, keptSlices_eq, List.map_map]
  exact List.map_congr_left fun segment hs =>
    placeholders_of_mem_segments (List.mem_of_mem_filter hs)

theorem sum_map_filter {α : Type} {p : α → Bool} {f : α → Nat} {xs : List α}
    (h : ∀ x ∈ xs, p x = false → f x = 0) : ((xs.filter p).map f).sum = (xs.map f).sum := by
  induction xs with
  | nil => rfl
  | cons x xs ih =>
    obtain ⟨hx, hxs⟩ := List.forall_mem_cons.1 h
    cases hp : p x with
    | true => simp [hp, ih hxs]
    | false => simp [hp, ih hxs, hx hp]

/-- A split has as many counts as texts. Both come from the slices that are kept, in order: the text
of an entry is that of its slice, trimmed, and its count is that of the placeholders in its slice.
The counts add up to all placeholders of the script, whatever is dropped, and with the comments kept
each text has as many placeholders when it is read alone. -/
theorem counts_split (o : Options) (script : List Char) :
    (split o script).texts.length = (split o script).counts.length ∧
      (split o script).texts = (o.keptSlices script).map (fun slice =>
        o.trim (textOf (slice.filter fun t => o.keepComments || !t.isComment))) ∧
      (split o script).counts = (o.keptSlices script).map placeholdersIn ∧
      (split o script).counts.sum = placeholdersIn (tokens script) ∧
      (o.keepComments = true →
        (split o script).counts = (split o script).texts.map fun text =>
          placeholdersIn (tokens text)) := by
  have htexts : (split o script).texts = (o.keptSlices script).map fun slice =>
      o.trim (textOf (slice.filter fun t => o.keepComments || !t.isComment)) := by
    rw [texts_split, keptSlices_eq, List.map_map]
    rfl
  refine ⟨by rw [Splitting.texts, Splitting.counts, List.length_map, List.length_map], htexts,
    counts_split_eq o script, ?_, fun hkeep => ?_⟩
  · rw [counts_split_eq, keptSlices_eq, List.map_map]
    conv_rhs => rw [← tokens_segments (tokens script), placeholdersIn_flatMap]
    apply sum_map_filter
    intro segment hs hdropped
    rw [Bool.or_eq_false_iff, Bool.not_eq_false'] at hdropped
    exact placeholdersIn_of_isBlank hs hdropped.2
  · rw [counts_split_eq, htexts, List.map_map, keptSlices_eq, List.map_map, List.map_map]
    apply List.map_congr_left
    intro segment hs
    obtain ⟨front, back, hsegments⟩ := List.append_of_mem (List.mem_of_mem_filter hs)
    have hall : segment.tokens.filter (fun t => o.keepComments || !t.isComment) = segment.tokens :=
      List.filter_eq_self.2 fun t _ => by simp [hkeep]
    simp only [Function.comp, hall, placeholdersIn_tokens_of_trim, tokens_textOf_segment hsegments]

end SqlScript
