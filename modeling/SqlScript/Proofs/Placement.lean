import SqlScript.Proofs.Excerpts
import Mathlib.Data.List.Induction

namespace SqlScript

open Lexer Scan

/-- The offset behind the last character of a token. -/
def PlacedToken.ending (t : PlacedToken) : Nat :=
  t.position.offset + t.token.text.length

/-- The token lies between two offsets. -/
def PlacedToken.liesIn (p q : Nat) (t : PlacedToken) : Bool :=
  p ≤ t.position.offset && t.ending ≤ q

/-- The tokens cover a script from one offset to another: none of them is empty, each spells the
characters at its place, and each starts where the one before it ends. -/
inductive Tiles (script : List Char) : Nat → List PlacedToken → Nat → Prop
  | nil {p} : Tiles script p [] p
  | cons {t ts q} (hne : t.token.text ≠ [])
      (htext : t.token.text = script.extract t.position.offset t.ending)
      (hts : Tiles script t.ending ts q) : Tiles script t.position.offset (t :: ts) q

/-- The index just behind the last line feed of a text, where its last line starts. -/
def lineStart (s : List Char) : Nat :=
  (s.findIdxs (· == '\n')).getLast?.elim 0 (· + 1)

/-- A place where two tokens of a script meet, or one of its ends. -/
def IsSeam (script : List Char) (p : Nat) : Prop :=
  p = 0 ∨ p = script.length ∨ ∃ t ∈ placedTokens script, t.position.offset = p

instance (script : List Char) (p : Nat) : Decidable (IsSeam script p) :=
  inferInstanceAs (Decidable (_ ∨ _ ∨ _))

variable {script before s rest : List Char} {ts : List PlacedToken} {xs : List Token}
  {t : PlacedToken} {p q : Nat}

theorem Tiles.within (h : Tiles script p ts q) :
    p ≤ q ∧ ∀ t ∈ ts, p ≤ t.position.offset ∧ t.position.offset < t.ending ∧ t.ending ≤ q := by
  induction h with
  | nil => simp
  | @cons t ts q hne _ _ ih =>
    obtain ⟨hle, hts⟩ := ih
    have hlt : t.position.offset < t.ending :=
      Nat.lt_add_of_pos_right (List.length_pos_iff.2 hne)
    have hpast := Nat.le_of_lt hlt
    refine ⟨hpast.trans hle, List.forall_mem_cons.2 ⟨⟨Nat.le_refl _, hlt, hle⟩, ?_⟩⟩
    intro u hu
    obtain ⟨hstart, hpos, hend⟩ := hts u hu
    exact ⟨hpast.trans hstart, hpos, hend⟩

theorem Tiles.filter_eq_self (h : Tiles script p ts q) : ts.filter (·.liesIn p q) = ts := by
  apply List.filter_eq_self.2
  intro t ht
  obtain ⟨hstart, -, hend⟩ := h.within.2 t ht
  simp [PlacedToken.liesIn, hstart, hend]

theorem Tiles.filter_eq_nil (h : Tiles script p ts q) {p' q' : Nat} (hout : q ≤ p' ∨ q' ≤ p) :
    ts.filter (·.liesIn p' q') = [] := by
  apply List.filter_eq_nil_iff.2
  intro t ht
  obtain ⟨hstart, hpos, hend⟩ := h.within.2 t ht
  simp only [PlacedToken.liesIn, Bool.and_eq_true, decide_eq_true_eq, not_and]
  omega

theorem tiles_place {p : Position} (hp : p.offset = before.length) (hne : ∀ x ∈ xs, x.text ≠ [])
    (hscript : script = before ++ (textOf xs ++ rest)) :
    Tiles script p.offset (place p xs) (p.offset + (textOf xs).length) := by
  induction xs generalizing p before with
  | nil => exact .nil
  | cons x xs ih =>
    obtain ⟨hx, hxs⟩ := List.forall_mem_cons.1 hne
    rw [textOf_cons, List.append_assoc] at hscript
    have hafter : (p.after x.text).offset = (before ++ x.text).length := by
      rw [offset_after, hp, List.length_append]
    have hi := ih hafter hxs (by rw [hscript, List.append_assoc])
    have htext : x.text = script.extract p.offset (p.offset + x.text.length) := by
      rw [List.extract_eq_take_drop, Nat.add_sub_cancel_left, hp, hscript, List.drop_left,
        List.take_left]
    rw [offset_after] at hi
    rw [textOf_cons, List.length_append, ← Nat.add_assoc]
    exact .cons (t := ⟨x, p⟩) hx htext hi

theorem lineStart_append_newline (s : List Char) : lineStart (s ++ ['\n']) = s.length + 1 := by
  simp [lineStart, List.findIdxs_append]

theorem lineStart_append_of_ne {c : Char} (hc : c ≠ '\n') (s : List Char) :
    lineStart (s ++ [c]) = lineStart s := by
  simp [lineStart, List.findIdxs_append, hc]

theorem after_append (p : Position) (a b : List Char) : p.after (a ++ b) = (p.after a).after b :=
  List.foldl_append

theorem after_concat (s : List Char) (c : Char) :
    Position.start.after (s ++ [c]) = (Position.start.after s).next c :=
  after_append ..

theorem line_after (s : List Char) : (Position.start.after s).line = 1 + s.count '\n' := by
  induction s using List.reverseRecOn with
  | nil => rfl
  | append_singleton s c ih =>
    rw [after_concat, Position.next, List.count_append, List.count_singleton, ← Nat.add_assoc, ← ih]
    by_cases hc : c = '\n'
    · rw [if_pos hc, if_pos (beq_iff_eq.2 hc)]
    · rw [if_neg hc, if_neg (by simpa using hc)]
      rfl

theorem column_after (s : List Char) :
    (Position.start.after s).column + lineStart s = s.length + 1 := by
  induction s using List.reverseRecOn with
  | nil => rfl
  | append_singleton s c ih =>
    rw [after_concat, Position.next, List.length_append, List.length_singleton]
    by_cases hc : c = '\n'
    · subst hc
      rw [if_pos rfl, lineStart_append_newline]
      exact Nat.add_comm ..
    · rw [if_neg hc, lineStart_append_of_ne hc, ← ih]
      exact Nat.add_right_comm ..

theorem exists_append_of_mem_place {p : Position} (h : t ∈ place p xs) :
    ∃ front back, xs = front ++ t.token :: back ∧ t.position = p.after (textOf front) := by
  induction xs generalizing p with
  | nil => cases h
  | cons x xs ih =>
    rw [place] at h
    rcases List.mem_cons.1 h with rfl | h
    · exact ⟨[], xs, rfl, rfl⟩
    · obtain ⟨front, back, rfl, hposition⟩ := ih h
      refine ⟨x :: front, back, rfl, ?_⟩
      rw [hposition, textOf_cons, after_append]

theorem offset_start_after (s : List Char) : (Position.start.after s).offset = s.length := by
  rw [offset_after]
  exact Nat.zero_add _

theorem eq_textOf_append {front back : List Token}
    (hscript : tokens script = front ++ (xs ++ back)) :
    script = textOf front ++ (textOf xs ++ textOf back) := by
  rw [← textOf_append, ← textOf_append, ← hscript, textOf_tokens]

/-- Some tokens of a script cover the part of it that they spell. -/
theorem tiles_between {front back : List Token} (hscript : tokens script = front ++ (xs ++ back)) :
    Tiles script (textOf front).length (place (Position.start.after (textOf front)) xs)
      ((textOf front).length + (textOf xs).length) := by
  have hne : ∀ x ∈ xs, x.text ≠ [] := by
    intro x hx
    have hmem : x ∈ tokens script := by simp [hscript, hx]
    exact text_ne_nil hmem
  have htiles := tiles_place (offset_start_after (textOf front)) hne (eq_textOf_append hscript)
  rwa [offset_start_after] at htiles

/-- The tokens of a script cover it from its first to its last character. The line of a token counts
the line feeds in front of it, and its column the characters since the last of them. -/
theorem tiles_placedTokens (script : List Char) :
    Tiles script 0 (placedTokens script) script.length ∧
      ∀ t ∈ placedTokens script,
        t.position.line = 1 + (script.take t.position.offset).count '\n' ∧
          t.position.column + lineStart (script.take t.position.offset) =
            t.position.offset + 1 := by
  constructor
  · have hscript : tokens script = [] ++ (tokens script ++ []) := by simp
    have htiles : Tiles script 0 (placedTokens script) (0 + (textOf (tokens script)).length) :=
      tiles_between hscript
    rwa [textOf_tokens, Nat.zero_add] at htiles
  · intro t ht
    obtain ⟨front, back, hscript, hposition⟩ := exists_append_of_mem_place ht
    have hoffset : t.position.offset = (textOf front).length := by
      rw [hposition, offset_start_after]
    have hfront : script.take t.position.offset = textOf front := by
      rw [← textOf_tokens script, hscript, textOf_append, hoffset, List.take_left]
    rw [hfront, hposition, offset_start_after]
    exact ⟨line_after (textOf front), column_after (textOf front)⟩

theorem tiles_placedTokens_of_lines :
    Tiles "a /*\n*/\n  'b".toList 0 (placedTokens "a /*\n*/\n  'b".toList) 12 ∧
      ⟨⟨.stringLiteral, "'b".toList⟩, ⟨10, 3, 3⟩⟩ ∈ placedTokens "a /*\n*/\n  'b".toList ∧
      3 = 1 + ("a /*\n*/\n  'b".toList.take 10).count '\n' ∧
      3 + lineStart ("a /*\n*/\n  'b".toList.take 10) = 10 + 1 := by
  have hmem : ⟨⟨.stringLiteral, "'b".toList⟩, ⟨10, 3, 3⟩⟩ ∈
      placedTokens "a /*\n*/\n  'b".toList := by
    decide +kernel
  obtain ⟨htiles, hplaces⟩ := tiles_placedTokens "a /*\n*/\n  'b".toList
  exact ⟨htiles, hmem, hplaces _ hmem⟩

theorem exists_append_of_isSeam (h : IsSeam script p) :
    ∃ front back, tokens script = front ++ back ∧ (textOf front).length = p := by
  rcases h with rfl | rfl | ⟨t, ht, rfl⟩
  · exact ⟨[], tokens script, rfl, rfl⟩
  · exact ⟨tokens script, [], (List.append_nil _).symm, by rw [textOf_tokens]⟩
  · obtain ⟨front, back, hscript, hposition⟩ := exists_append_of_mem_place ht
    refine ⟨front, t.token :: back, hscript, ?_⟩
    rw [hposition, offset_start_after]

theorem exists_tokens_between (hp : IsSeam script p) (hq : IsSeam script q) (hpq : p ≤ q) :
    ∃ front xs back, tokens script = front ++ (xs ++ back) ∧ (textOf front).length = p ∧
      (textOf front).length + (textOf xs).length = q := by
  obtain ⟨front, others, hscript, rfl⟩ := exists_append_of_isSeam hp
  obtain ⟨front', back, hscript', rfl⟩ := exists_append_of_isSeam hq
  rcases List.append_eq_append_iff.1 (hscript.symm.trans hscript') with
    ⟨xs, rfl, rfl⟩ | ⟨xs, rfl, rfl⟩
  · exact ⟨front, xs, back, hscript, rfl, by rw [textOf_append, List.length_append]⟩
  · -- The second place is not behind the first one, so no token stands between them.
    have hxs : xs = [] := by
      cases xs with
      | nil => rfl
      | cons x xs =>
        have hx : x ∈ tokens script := by simp [hscript]
        have hpos := List.length_pos_iff.2 (text_ne_nil hx)
        rw [textOf_append, textOf_cons, List.length_append, List.length_append] at hpq
        omega
    subst hxs
    exact ⟨front', [], others, by simpa using hscript, by simp, by simp [textOf]⟩

/-- Of the tokens of a script, those lie between two places that fill the text between them. -/
theorem filter_placedTokens {front back : List Token}
    (hscript : tokens script = front ++ (xs ++ back)) (hp : (textOf front).length = p)
    (hq : (textOf front).length + (textOf xs).length = q) :
    (placedTokens script).filter (·.liesIn p q) =
      place (Position.start.after (textOf front)) xs := by
  subst hp hq
  have hall : tokens script = [] ++ (front ++ (xs ++ back)) := hscript
  have hlast : tokens script = (front ++ xs) ++ (back ++ []) := by simp [hscript]
  have hfront : (place .start front).filter (·.liesIn (textOf front).length
      ((textOf front).length + (textOf xs).length)) = [] :=
    (tiles_between hall).filter_eq_nil (.inl (Nat.zero_add _).le)
  have hback : (place ((Position.start.after (textOf front)).after (textOf xs)) back).filter
      (·.liesIn (textOf front).length ((textOf front).length + (textOf xs).length)) = [] := by
    rw [← after_append, ← textOf_append]
    exact (tiles_between hlast).filter_eq_nil (.inr (by rw [textOf_append, List.length_append]))
  rw [placedTokens, hscript, place_append, place_append, List.filter_append, List.filter_append,
    hfront, (tiles_between hscript).filter_eq_self, hback, List.append_nil, List.nil_append]

/-- A part of a script between two places where tokens meet is read as the tokens that lie in it, at
the same distances, unless it starts with the bracket of a subscript. -/
theorem placedTokens_extract (hp : IsSeam script p) (hq : IsSeam script q) (hpq : p ≤ q)
    (hbracket : script[p]? = some '[' → (script.take p).getLast?.any takesSubscript = false) :
    List.Forall₂ (ShiftedBy p) ((placedTokens script).filter (·.liesIn p q))
      (placedTokens (script.extract p q)) := by
  obtain ⟨front, xs, back, hscript, hfront, hxs⟩ := exists_tokens_between hp hq hpq
  have htext := eq_textOf_append hscript
  have hextract : script.extract p q = textOf xs := by
    rw [List.extract_eq_take_drop, ← hxs, hfront, Nat.add_sub_cancel_left, htext, ← hfront,
      List.drop_left, List.take_left]
  have hread : tokens (textOf xs) = xs := by
    apply tokens_excerpt hscript
    intro hhead
    have hfirst : script[p]? = some '[' := by
      rw [htext, ← hfront, List.getElem?_append_right (Nat.le_refl _), Nat.sub_self,
        ← List.head?_eq_getElem?, List.head?_append, hhead]
      rfl
    have htake : script.take p = textOf front := by
      rw [htext, ← hfront, List.take_left]
    exact htake ▸ hbracket hfirst
  rw [filter_placedTokens hscript hfront hxs, hextract, placedTokens, hread]
  apply shiftedBy_place
  rw [offset_start_after, hfront]
  rfl

theorem placedTokens_extract_of_name :
    IsSeam "x = [a]; -- b".toList 4 ∧ IsSeam "x = [a]; -- b".toList 8 ∧ 4 ≤ 8 ∧
      ("x = [a]; -- b".toList[4]? = some '[' →
        ("x = [a]; -- b".toList.take 4).getLast?.any takesSubscript = false) ∧
      List.Forall₂ (ShiftedBy 4)
        ((placedTokens "x = [a]; -- b".toList).filter (·.liesIn 4 8))
        (placedTokens ("x = [a]; -- b".toList.extract 4 8)) := by
  have hp : IsSeam "x = [a]; -- b".toList 4 := by decide +kernel
  have hq : IsSeam "x = [a]; -- b".toList 8 := by decide +kernel
  have hbracket : "x = [a]; -- b".toList[4]? = some '[' →
      ("x = [a]; -- b".toList.take 4).getLast?.any takesSubscript = false := by
    decide +kernel
  exact ⟨hp, hq, by decide, hbracket, placedTokens_extract hp hq (by decide) hbracket⟩

end SqlScript
