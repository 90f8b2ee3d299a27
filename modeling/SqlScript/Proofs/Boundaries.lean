import SqlScript.Statement
import SqlScript.Proofs.Runs

namespace SqlScript

/-- The index of the last comment on the line of the token at an index, or that index itself. -/
def trailingEnd (tokens : List Token) (i : Nat) : Nat :=
  i + (trailingComments (tokens.drop (i + 1))).length

/-- A list from `start` on, cut at the given places. -/
def slicesFrom (tokens : List Token) (start : Nat) (cuts : List Nat) : List (List Token) :=
  List.zipWith (fun a b => tokens.extract a b) (start :: cuts) (cuts ++ [tokens.length])

/-- The tokens up to each boundary and its trailing comments, and those after the last one. -/
def slices (tokens : List Token) : List (List Token) :=
  slicesFrom tokens 0 ((boundaries tokens).map (trailingEnd tokens · + 1))

theorem slicesFrom_nil (tokens : List Token) (start : Nat) :
    slicesFrom tokens start [] = [tokens.drop start] := by
  simp [slicesFrom, List.take_of_length_le]

theorem slicesFrom_cons (tokens : List Token) (start cut : Nat) (cuts : List Nat) :
    slicesFrom tokens start (cut :: cuts) =
      tokens.extract start cut :: slicesFrom tokens cut cuts := by
  simp [slicesFrom]

theorem length_slices (tokens : List Token) :
    (slices tokens).length = (boundaries tokens).length + 1 := by
  simp [slices, slicesFrom]

namespace Nesting

variable {state : Nesting} {before rest : List Token} {t : Token}

/-- The indices in a whole list of the boundaries among the tokens that stand after `before`. -/
def boundariesAfter (state : Nesting) (before rest : List Token) : List Nat :=
  (state.trace (cursorsFrom before rest)).findIdxs (·.2) before.length

theorem boundariesAfter_of_ends (h : (state.stepAt ⟨before, t, rest⟩).2 = true) :
    state.boundariesAfter before (t :: rest) = before.length ::
      (state.stepAt ⟨before, t, rest⟩).1.boundariesAfter (t :: before) rest := by
  rw [boundariesAfter, cursorsFrom, trace, List.findIdxs_cons, if_pos h]
  rfl

theorem boundariesAfter_of_not_ends (h : ¬ (state.stepAt ⟨before, t, rest⟩).2 = true) :
    state.boundariesAfter before (t :: rest) =
      (state.stepAt ⟨before, t, rest⟩).1.boundariesAfter (t :: before) rest := by
  rw [boundariesAfter, cursorsFrom, trace, List.findIdxs_cons, if_neg h]
  rfl

theorem boundariesAfter_layout (state : Nesting) (before rest : List Token) {layout : List Token}
    (h : ∀ u ∈ layout, u.isSignificant = false) :
    state.boundariesAfter before (layout ++ rest) =
      state.boundariesAfter (layout.reverse ++ before) rest := by
  induction layout generalizing before with
  | nil => rfl
  | cons u layout ih =>
    have hu : u.isSignificant = false := h u (by simp)
    have hstep : state.stepAt ⟨before, u, layout ++ rest⟩ = (state, false) :=
      step_of_layout state hu
    rw [List.cons_append, boundariesAfter_of_not_ends (by simp [hstep]), hstep,
      ih (u :: before) fun v hv => h v (List.mem_cons_of_mem u hv)]
    simp

end Nesting

theorem trailingEnd_append (passed rest : List Token) (t : Token) :
    trailingEnd (passed ++ t :: rest) passed.length =
      passed.length + (trailingComments rest).length := by
  have hdrop : (passed ++ t :: rest).drop (passed.length + 1) = rest := by
    simp [List.drop_append]
  rw [trailingEnd, hdrop]

theorem extract_trailingEnd (passed rest : List Token) (t : Token) {start : Nat}
    (hs : start ≤ passed.length) :
    (passed ++ t :: rest).extract start (trailingEnd (passed ++ t :: rest) passed.length + 1) =
      passed.drop start ++ t :: trailingComments rest := by
  obtain ⟨rest', hrest⟩ := trailingComments_isPrefix rest
  rw [trailingEnd_append, List.extract_eq_take_drop, List.drop_append_of_le_length hs]
  conv_lhs => arg 2; rw [← hrest]
  rw [← List.cons_append, ← List.append_assoc]
  exact List.take_left' (by simp; omega)

/-- The loop of the segments against the full run. At each point of a script `before` holds the
tokens passed, those from `start` on belong to the statement at hand, and the state is that of the
full run. -/
theorem tokens_cut_eq_slicesFrom {tokens : List Token} (state : Nesting)
    (before held rest : List Token) (start : Nat) (hw : before.reverse ++ rest = tokens)
    (hs : start ≤ before.length) (hh : held.reverse = before.reverse.drop start) :
    (cut state before held rest).1.map (·.tokens) =
      slicesFrom tokens start
        ((state.boundariesAfter before rest).map (trailingEnd tokens · + 1)) := by
  fun_induction cut state before held rest generalizing start with
  | case1 state before held =>
    subst hw
    simp [Nesting.boundariesAfter, cursorsFrom, Nesting.trace, slicesFrom_nil, hh]
  | case2 state before held t rest outcome h comments others ih =>
    obtain ⟨rest', hrest⟩ : comments <+: rest := trailingComments_isPrefix rest
    have hdrop : rest.drop comments.length = rest' := by
      rw [← hrest]
      exact List.drop_left
    have hslice : tokens.extract start (trailingEnd tokens before.length + 1) =
        held.reverse ++ t :: comments := by
      have hx := extract_trailingEnd before.reverse rest t (by simpa using hs)
      rw [hw, List.length_reverse] at hx
      rw [hx, hh]
    have hcut : trailingEnd tokens before.length + 1 =
        (comments.reverse ++ t :: before).length := by
      have he : _ = _ + comments.length := trailingEnd_append before.reverse rest t
      rw [hw, List.length_reverse] at he
      rw [he, List.length_append, List.length_reverse, List.length_cons]
      omega
    have hi := ih _ (by simp [hdrop, ← hw, hrest]) (Nat.le_of_eq hcut)
      (by rw [hcut, ← List.length_reverse, List.drop_length]; rfl)
    have hskip := outcome.1.boundariesAfter_layout (t :: before) rest'
      fun u (hu : u ∈ comments) => isSignificant_of_mem_trailingComments hu
    rw [hrest, ← hdrop] at hskip
    rw [hskip.symm] at hi
    rw [Nesting.boundariesAfter_of_ends h, List.map_cons, List.map_cons, slicesFrom_cons, hslice]
    exact congrArg _ hi
  | case3 state before held t rest outcome h ih =>
    have hi := ih start (by simpa using hw) (by simp; omega) (by simp [hh, List.drop_append, hs])
    rw [Nesting.boundariesAfter_of_not_ends h]
    exact hi

theorem tokens_segments_eq_slices (tokens : List Token) :
    (segments tokens).1.map (·.tokens) = slices tokens :=
  tokens_cut_eq_slicesFrom {} [] [] tokens 0 rfl (Nat.le_refl 0) rfl

/-- The segments of a script are its slices at the boundaries of the full run, one more than there
are boundaries, and the options only decide whether their comments are spelled out. -/
theorem raw_eq_slices (o : Options) (script : List Char) :
    (boundaries (tokens script)).Pairwise (· < ·) ∧
      (o.raw (segments (tokens script)).1).length = (boundaries (tokens script)).length + 1 ∧
      (o.raw (segments (tokens script)).1).map (·.text) = (slices (tokens script)).map fun slice =>
        textOf (slice.filter fun t => o.keepComments || !t.isComment) := by
  have hs := tokens_segments_eq_slices (tokens script)
  refine ⟨List.pairwise_findIdxs, ?_, ?_⟩
  · rw [← length_slices, ← hs, Options.raw, List.length_map, List.length_map]
  · rw [← hs, Options.raw, List.map_map, List.map_map]
    rfl

end SqlScript
