import SqlScript.Proofs.Boundaries
import SqlScript.Proofs.NestedStatements

namespace SqlScript

open Nesting

/-- Some token of a run is a declaration, and none after it starts a body. -/
def LeavesHeader (cs : List Cursor) : Prop :=
  ∃ pre c post, cs = pre ++ c :: post ∧ c.token.keyword = .declare ∧
    ∀ u ∈ post, u.opensBegin = false ∧ u.isQuotedBody = false

/-- What may stand in front of a block: nothing, or a header. -/
inductive Preamble : List Token → List Token → Prop
  | empty {after} : Preamble [] after
  | header {head hs after} (hhead : StartsHeader head) (hhs : Items .header hs after)
      (hq : NoQuotedBody hs) : Preamble (head ++ hs) after

variable {before pre block first rest after : List Token} {mark : Token} {h : Bool}
  {cs : List Cursor} {c : Cursor}

theorem Cursor.headerAfter_eq (h : Bool) (c : Cursor) :
    c.headerAfter h =
      (c.token.keyword == .declare || (h && !c.opensBegin && !c.isQuotedBody)) := by
  by_cases hk : c.token.keyword = .declare
  · rw [headerAfter_of_describes (r := .declares) h hk]
    simp [hk, Role.headerAfter]
  by_cases hb : c.opensBegin = true
  · rw [headerAfter_of_describes (r := .opensBegin) h hb]
    simp [hk, hb, Role.headerAfter]
  by_cases hq : c.isQuotedBody = true
  · rw [headerAfter_of_describes (r := .quotedBody) h hq]
    simp [hk, hq, Role.headerAfter]
  have hr := Role.describes_ofCursor c
  rw [headerAfter]
  generalize Role.ofCursor c = r at hr
  cases r with
  | declares => exact absurd hr hk
  | opensBegin => exact absurd hr hb
  | quotedBody => exact absurd hr hq
  | _ => simp [Role.headerAfter, hk, hb, hq]

theorem leavesHeader_concat :
    LeavesHeader (cs ++ [c]) ↔
      c.token.keyword = .declare ∨
        LeavesHeader cs ∧ c.opensBegin = false ∧ c.isQuotedBody = false := by
  constructor
  · rintro ⟨pre, d, post, heq, hd, hpost⟩
    rcases List.eq_nil_or_concat post with rfl | ⟨post, u, rfl⟩
    · obtain ⟨-, rfl⟩ := List.append_singleton_inj.1 heq
      exact .inl hd
    · rw [List.concat_eq_append, ← List.cons_append, ← List.append_assoc] at heq
      obtain ⟨rfl, rfl⟩ := List.append_singleton_inj.1 heq
      exact .inr ⟨⟨pre, d, post, rfl, hd, fun v hv => hpost v (by simp [hv])⟩, hpost c (by simp)⟩
  · rintro (hd | ⟨⟨pre, d, post, rfl, hd, hpost⟩, hc⟩)
    · exact ⟨cs, c, [], rfl, hd, by simp⟩
    · refine ⟨pre, d, post ++ [c], by simp, hd, fun u hu => ?_⟩
      rcases List.mem_append.1 hu with hu | hu
      · exact hpost u hu
      · rwa [List.mem_singleton.1 hu]

/-- A run from a closed header leaves one open if it ends with a declaration that has no body. -/
theorem foldl_headerAfter_eq_true_iff :
    cs.foldl Cursor.headerAfter false = true ↔ LeavesHeader cs := by
  induction cs using List.reverseRecOn with
  | nil => simp [LeavesHeader]
  | append_singleton cs c ih =>
    rw [leavesHeader_concat, ← ih, List.foldl_concat, Cursor.headerAfter_eq]
    simp [and_assoc]

theorem Preamble.isSolid (hpre : Preamble pre after) : ∀ t ∈ pre, IsSolid t := by
  cases hpre with
  | empty => simp
  | header hhead hhs _ => exact List.forall_mem_append.2 ⟨hhead.isSolid, hhs.isSolid⟩

theorem Preamble.passes (hpre : Preamble pre after)
    (hafter : ∀ t ∈ after, t.isSignificant = true) :
    ∃ h, Passes (Open 0 false none) (cursorsBetween [] pre after) (Open 0 h none) := by
  cases hpre with
  | empty => exact ⟨false, .nil⟩
  | header hhead hhs hq => exact ⟨true, hhead.passes_append (hhs.isHeader rfl rfl) hq hafter⟩

theorem boundariesAfter_of_pass? {state state' : Nesting} (before first rest : List Token)
    (hpass : state.pass? (cursorsBetween before first rest) = some state') :
    state.boundariesAfter before (first ++ rest) =
      state'.boundariesAfter (first.reverse ++ before) rest := by
  induction first generalizing state before with
  | nil =>
    cases hpass
    rfl
  | cons t first ih =>
    rw [cursorsBetween_cons, pass?, Option.ite_none_left_eq_some] at hpass
    rw [List.cons_append, boundariesAfter_of_not_ends hpass.1, ih (t :: before) hpass.2]
    simp

/-- The semicolon after a compound statement ends it, and what follows is cut as a script of its
own, if every declaration in the block has a body behind it. If one has none, the semicolon ends
nothing, nor does any token before it. -/
theorem cutAt_of_compound (hfirst : significant first = pre ++ block)
    (hpre : Preamble pre (block ++ mark :: significant rest))
    (hblock : IsBlock .compound block (mark :: significant rest))
    (hmark : mark.kind = .terminator)
    (hslash : ∀ t ∈ (significant rest).head?, t.kind ≠ .separator) :
    (¬ LeavesHeader (cursorsBetween pre.reverse block (mark :: significant rest)) →
        CutAt first mark rest) ∧
      (LeavesHeader (cursorsBetween pre.reverse block (mark :: significant rest)) →
        ∀ j ∈ boundaries (first ++ mark :: rest), first.length < j) := by
  have hsig : ∀ t ∈ mark :: significant rest, t.isSignificant = true :=
    List.forall_mem_cons.2 ⟨Token.isSignificant_of_terminator hmark,
      fun t ht => isSignificant_of_mem_significant ht⟩
  have hsolid : ∀ t ∈ significant first, IsSolid t := by
    rw [hfirst]
    exact List.forall_mem_append.2 ⟨hpre.isSolid, hblock.isSolid⟩
  obtain ⟨h, hhead⟩ := hpre.passes
    (List.forall_mem_append.2 ⟨fun t ht => (hblock.isSolid t ht).isSignificant, hsig⟩)
  have hcompound := hblock.passes_shape (d := 0) (h := h) pre.reverse hsig
  have hcons : significant (mark :: rest) = mark :: significant rest :=
    List.filter_cons_of_pos (Token.isSignificant_of_terminator hmark)
  have hpass := Passes.squeeze [] first (mark :: rest)
    (by
      rw [hfirst, hcons, significant_nil, cursorsBetween_append, List.append_nil]
      exact hhead.append hcompound)
    fun t ht => (hsolid t ht).not_separator
  refine ⟨fun hleaves => ?_, fun hleaves j hj => ?_⟩
  · rw [Bool.eq_false_iff.2 (mt foldl_headerAfter_eq_true_iff.1 hleaves)] at hpass
    exact cutAt_of_passes hmark hslash hpass
  -- With a header open the run passes the semicolon too, so every ending is found behind it.
  · rw [foldl_headerAfter_eq_true_iff.2 hleaves] at hpass
    have hstays := passes_mark (c := ⟨first.reverse ++ [], mark, rest⟩) (p := none) (d := 0)
      (.inl hmark) (.inr (.inl rfl))
    obtain ⟨s, hs, -⟩ := hpass.append hstays {} open_empty
    have hlist : first ++ mark :: rest = (first ++ [mark]) ++ rest := by simp
    have hrun := boundariesAfter_of_pass? [] (first ++ [mark]) rest
      (by rw [cursorsBetween_append]; exact hs)
    have hbound : j ∈ s.boundariesAfter ((first ++ [mark]).reverse ++ []) rest := by
      rw [← hrun, ← hlist]
      exact hj
    have hle := List.ge_of_mem_findIdxs j hbound
    exact Nat.lt_of_succ_le (by simpa using hle)

open Token in
theorem cutAt_of_compound_of_nested :
    CutAt (tokens "BEGIN DECLARE x; BEGIN y; END; END".toList) semicolon (tokens " z".toList) := by
  have hblock : IsBlock .compound (significant (tokens "BEGIN DECLARE x; BEGIN y; END; END".toList))
      (semicolon :: significant (tokens " z".toList)) := by
    have h : IsBlock .compound (ofWord "BEGIN" :: ((ofWord "DECLARE" :: ([ofWord "x"] ++ semicolon
        :: (ofWord "BEGIN" :: ([ofWord "y", semicolon] ++ ofWord "END" :: [semicolon])))) ++
        [ofWord "END"])) [semicolon, ofWord "z"] :=
      .mk ⟨by decide +kernel, by decide +kernel⟩
        (.declaration rfl rfl (by decide +kernel)
          (.inert (inert_ofWord (by decide +kernel)) .nil) rfl
          (.block rfl (.inl ⟨by decide +kernel, by decide +kernel⟩)
            (.inert (inert_ofWord (by decide +kernel)) (.semicolon rfl rfl .nil))
            ⟨by decide +kernel, by decide +kernel⟩ (.semicolon rfl rfl .nil)))
        ⟨by decide +kernel, by decide +kernel⟩
    convert h using 1 <;> decide +kernel
  have hclosed : ¬ LeavesHeader (cursorsBetween []
      (significant (tokens "BEGIN DECLARE x; BEGIN y; END; END".toList))
      (semicolon :: significant (tokens " z".toList))) := by
    rw [← foldl_headerAfter_eq_true_iff]
    decide +kernel
  exact (cutAt_of_compound rfl .empty hblock rfl (by decide +kernel)).1 hclosed

open Token in
/-- A declaration with no block behind it holds the statement open to the end of the script. -/
theorem compound_left_open :
    IsBlock .compound (significant (tokens "BEGIN DECLARE x INT; SET x = 1; END".toList))
        (significant (tokens "; SELECT 1;".toList)) ∧
      boundaries (tokens "BEGIN DECLARE x INT; SET x = 1; END; SELECT 1;".toList) = [] := by
  refine ⟨?_, by decide +kernel⟩
  have h : IsBlock .compound (ofWord "BEGIN" :: ((ofWord "DECLARE" :: ([ofWord "x", ofWord "INT"] ++
      semicolon :: [ofWord "SET", ofWord "x", ⟨.other, ['=']⟩, ofWord "1", semicolon])) ++
      [ofWord "END"])) [semicolon, ofWord "SELECT", ofWord "1", semicolon] :=
    .mk ⟨by decide +kernel, by decide +kernel⟩
      (.declaration rfl rfl (by decide +kernel)
        (.inert (inert_ofWord (by decide +kernel)) (.inert (inert_ofWord (by decide +kernel)) .nil))
        rfl (.inert (inert_ofWord (by decide +kernel)) (.inert (inert_ofWord (by decide +kernel))
          (.inert ⟨rfl, by simp, by simp, .inl (by decide +kernel)⟩
            (.inert (inert_ofWord (by decide +kernel)) (.semicolon rfl rfl .nil))))))
      ⟨by decide +kernel, by decide +kernel⟩
  convert h using 1 <;> decide +kernel

end SqlScript
