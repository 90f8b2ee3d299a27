import SqlScript.Segment
import SqlScript.Proofs.Roles

namespace SqlScript

namespace Nesting

variable {s : Nesting} {r : Role} {c : Cursor} {name : List Char}

/-- The nesting at the end of a run of cursors. -/
def run (state : Nesting) : List Cursor → Nesting
  | [] => state
  | c :: rest => (state.stepAt c).1.run rest

@[simp] theorem run_nil (state : Nesting) : state.run [] = state := rfl

@[simp] theorem run_cons (state : Nesting) (c : Cursor) (rest : List Cursor) :
    state.run (c :: rest) = (state.stepAt c).1.run rest := rfl

theorem run_append (state : Nesting) (first second : List Cursor) :
    state.run (first ++ second) = (state.run first).run second := by
  induction first generalizing state with
  | nil => rfl
  | cons c rest ih => exact ih _

theorem getElem?_trace (state : Nesting) (cs : List Cursor) (i : Nat) :
    (state.trace cs)[i]? = cs[i]?.map (state.run (cs.take i)).stepAt := by
  induction cs generalizing state i with
  | nil => simp [trace]
  | cons c rest ih =>
    cases i with
    | zero => simp [trace]
    | succ i => simp [trace, ih]

theorem stepAt_of_describes (h : r.Describes c) : s.stepAt c = s.step r := by
  rw [stepAt, Role.ofCursor_of_describes h]

theorem close_eq (s : Nesting) (next : Option (List Char)) :
    s.close next =
      if s.inPackage = true ∧ next = s.package then
        { s with depth := s.depth - 1, package := none, inHeader := false }
      else { s with depth := s.depth - 1 } := by
  simp only [close, Bool.and_eq_true, beq_iff_eq]

theorem inCreateOrAlter_close (s : Nesting) (next : Option (List Char)) :
    (s.close next).inCreateOrAlter = s.inCreateOrAlter := by
  rw [close_eq]
  split <;> rfl

theorem placeholders_close (s : Nesting) (next : Option (List Char)) :
    (s.close next).placeholders = s.placeholders := by
  rw [close_eq]
  split <;> rfl

/-- Only an `END` lowers the depth. -/
theorem closes_of_depth_lt (h : (s.step r).1.depth < s.depth) : ∃ next, r = .closes next := by
  cases r with
  | closes next => exact ⟨next, rfl⟩
  | terminator =>
    rw [step] at h
    split at h <;> exact absurd h (Nat.lt_irrefl _)
  | opensBegin => exact absurd h (Nat.not_lt_of_le (Nat.le_succ _))
  | opensCase => exact absurd h (Nat.not_lt_of_le (Nat.le_succ _))
  | createsTypeBody => exact absurd h (Nat.not_lt_of_le (Nat.le_succ _))
  | _ => exact absurd h (Nat.lt_irrefl _)

/-- A header is only given up where its body starts, or at the end of its package. -/
theorem role_of_inHeader_lost (h : s.inHeader = true) (h' : ¬ (s.step r).1.inHeader = true) :
    r = .opensBegin ∨ r = .quotedBody ∨ s.inPackage = true ∧ r = .closes s.package := by
  cases r with
  | opensBegin => exact .inl rfl
  | quotedBody => exact .inr (.inl rfl)
  | closes next =>
    rw [step, close_eq] at h'
    split at h'
    · next hp => exact .inr (.inr ⟨hp.1, by rw [hp.2]⟩)
    · exact absurd h h'
  | terminator =>
    rw [step] at h'
    split at h' <;> exact absurd h h'
  | routine created method =>
    rw [step, h] at h'
    exact absurd rfl h'
  | declares => exact absurd rfl h'
  | _ => exact absurd h h'

/-- A package is only given up for another one, or at an `END` with its name. -/
theorem role_of_package_lost (h : s.package = some name)
    (h' : (s.step r).1.package ≠ some name) :
    (∃ other, r = .createsPackage other) ∨ r = .closes (some name) := by
  cases r with
  | createsPackage other => exact .inl ⟨other, rfl⟩
  | closes next =>
    rw [step, close_eq] at h'
    split at h'
    · next hp => exact .inr (by rw [hp.2, h])
    · exact absurd h h'
  | terminator =>
    rw [step] at h'
    split at h' <;> exact absurd h h'
  | _ => exact absurd h h'

/-- Only a terminator ends a statement, and only where nothing is open. -/
theorem canTerminate_of_ends (h : (s.step r).2 = true) :
    s.canTerminate = true ∧ r = .terminator := by
  cases r with
  | terminator =>
    rw [step] at h
    split at h
    · next hs => exact ⟨hs, rfl⟩
    · cases h
  | _ => cases h

end Nesting

/-- The nesting in front of the token at an index of a list. -/
def nestingAt (tokens : List Token) (i : Nat) : Nesting :=
  ({} : Nesting).run ((cursors tokens).take i)

/-- A condition on a token and on the nesting in front of it, at an index of a list. -/
def holdsAt (tokens : List Token) (p : Nesting → Cursor → Bool) (i : Nat) : Bool :=
  (cursors tokens)[i]?.any (p (nestingAt tokens i))

/-- The indices of the tokens that end a statement, with every token of the list passed in turn. -/
def boundaries (tokens : List Token) : List Nat :=
  (({} : Nesting).trace (cursors tokens)).findIdxs (·.2)

variable {tokens : List Token} {c : Cursor} {i j k : Nat}

theorem holdsAt_iff {p : Nesting → Cursor → Bool} :
    holdsAt tokens p i = true ↔
      ∃ c, (cursors tokens)[i]? = some c ∧ p (nestingAt tokens i) c = true :=
  Option.any_eq_true ..

theorem nestingAt_succ (h : (cursors tokens)[i]? = some c) :
    nestingAt tokens (i + 1) = ((nestingAt tokens i).stepAt c).1 := by
  rw [nestingAt, List.take_add_one, h, Nesting.run_append]
  rfl

theorem nestingAt_eq_run (h : k ≤ j) :
    nestingAt tokens j = (nestingAt tokens k).run ((cursors tokens).extract k j) := by
  rw [nestingAt, nestingAt, ← Nesting.run_append]
  congr 1
  rw [List.extract_eq_take_drop, ← List.take_add, Nat.add_sub_of_le h]

theorem mem_boundaries_iff :
    j ∈ boundaries tokens ↔ holdsAt tokens (fun s c => (s.stepAt c).2) j = true := by
  rw [boundaries, List.mem_findIdxs_iff_exists_getElem_pos, holdsAt_iff]
  constructor
  · rintro ⟨hj, hend⟩
    have ht := List.getElem?_eq_getElem hj
    rw [Nesting.getElem?_trace, Option.map_eq_some_iff] at ht
    obtain ⟨c, hc, ht⟩ := ht
    exact ⟨c, hc, by rw [nestingAt, ht, hend]⟩
  · rintro ⟨c, hc, hend⟩
    have ht := Nesting.getElem?_trace {} (cursors tokens) j
    rw [hc] at ht
    obtain ⟨hj, ht⟩ := List.getElem?_eq_some_iff.1 ht
    exact ⟨hj, by rw [ht]; exact hend⟩

theorem exists_step_of_lost {p : Nesting → Prop} (hkj : k ≤ j) (h : p (nestingAt tokens k))
    (h' : ¬ p (nestingAt tokens j)) :
    ∃ m c, k ≤ m ∧ m < j ∧ (cursors tokens)[m]? = some c ∧ p (nestingAt tokens m) ∧
      ¬ p ((nestingAt tokens m).stepAt c).1 := by
  induction hkj with
  | refl => exact absurd h h'
  | @step j hkj ih =>
    by_cases hj : p (nestingAt tokens j)
    · cases hc : (cursors tokens)[j]? with
      | none =>
        refine absurd hj ?_
        rwa [nestingAt, List.take_add_one, hc, Option.toList_none, List.append_nil] at h'
      | some c =>
        rw [nestingAt_succ hc] at h'
        exact ⟨j, c, hkj, Nat.lt_succ_self j, hc, hj, h'⟩
    · obtain ⟨m, c, hkm, hmj, hc⟩ := ih hj
      exact ⟨m, c, hkm, Nat.lt_succ_of_lt hmj, hc⟩

end SqlScript
