import SqlScript.Proofs.Runs

namespace SqlScript

namespace Cursor

/-- The token opens a block or a type body, either of which an `END` closes. -/
def opensConstruct (c : Cursor) : Bool :=
  c.opensBlock || (c.token.keyword == .create && c.createsTypeBody)

/-- The name of the package that the token makes, if it is a `CREATE` that makes one. -/
def createdPackage? (c : Cursor) : Option (List Char) :=
  if c.token.keyword = .create then c.packageName? else none

/-- `END` closes a block and is followed by the name. -/
def endsWithName (c : Cursor) (name : List Char) : Bool :=
  c.closesBlock && c.following?.map (·.text) == some name

end Cursor

namespace Nesting

variable {s : Nesting} {c : Cursor} {name : List Char}

/-- The header of a routine or a declaration starts at the token. -/
def startsHeader (s : Nesting) (c : Cursor) : Bool :=
  c.token.keyword == .declare ||
    (c.token.keyword == .routine && s.opensHeader c.isCreated c.isMethod)

/-- `END` closes the open package. -/
def closesPackage (s : Nesting) (c : Cursor) : Bool :=
  s.inPackage && c.closesBlock && c.following?.map (·.text) == s.package

/-- The token ends a header: with the body of a routine, or with the package that declares it. -/
def clearsHeader (s : Nesting) (c : Cursor) : Bool :=
  c.opensBegin || c.isQuotedBody || s.closesPackage c

theorem depth_of_opensConstruct (h : c.opensConstruct = true) :
    (s.stepAt c).1.depth = s.depth + 1 := by
  rw [Cursor.opensConstruct, Cursor.opensBlock, Bool.or_eq_true, Bool.or_eq_true,
    Bool.and_eq_true] at h
  rcases h with (hb | hc) | ⟨hk, ht⟩
  · rw [stepAt_of_describes (r := .opensBegin) hb, step]
  · rw [stepAt_of_describes (r := .opensCase) hc, step]
  · rw [stepAt_of_describes (r := .createsTypeBody) ⟨eq_of_beq hk, ht⟩, step]

theorem depth_of_closesBlock (h : c.closesBlock = true) :
    (s.stepAt c).1.depth = s.depth - 1 := by
  rw [stepAt_of_describes (r := .closes _) ⟨h, rfl⟩, step, close_eq]
  split <;> rfl

theorem depth_add_opens_le (s : Nesting) (c : Cursor) :
    s.depth + (if c.opensConstruct = true then 1 else 0) ≤
      (s.stepAt c).1.depth + (if c.closesBlock = true then 1 else 0) := by
  by_cases ho : c.opensConstruct = true
  · rw [if_pos ho, depth_of_opensConstruct ho]
    exact Nat.le_add_right _ _
  · rw [if_neg ho]
    by_cases hc : c.closesBlock = true
    · rw [if_pos hc, depth_of_closesBlock hc]
      omega
    · rw [if_neg hc]
      refine Nat.le_of_not_lt fun hlt => hc ?_
      obtain ⟨next, hr⟩ := closes_of_depth_lt hlt
      exact (Role.ofCursor_eq_iff.1 hr).1

/-- Over a run the openers raise the depth, and only as many closers can lower it again. -/
theorem depth_add_countP_le (s : Nesting) (cs : List Cursor) :
    s.depth + cs.countP Cursor.opensConstruct ≤
      (s.run cs).depth + cs.countP Cursor.closesBlock := by
  induction cs generalizing s with
  | nil => exact Nat.le_refl _
  | cons c rest ih =>
    have hstep := depth_add_opens_le s c
    have hrest := ih (s.stepAt c).1
    rw [List.countP_cons, List.countP_cons, run_cons]
    omega

theorem inHeader_of_startsHeader (h : s.startsHeader c = true) :
    (s.stepAt c).1.inHeader = true := by
  rw [startsHeader, Bool.or_eq_true, Bool.and_eq_true] at h
  rcases h with hk | ⟨hk, hh⟩
  · rw [stepAt_of_describes (r := .declares) (eq_of_beq hk), step]
  · rw [stepAt_of_describes (r := .routine _ _) ⟨eq_of_beq hk, rfl, rfl⟩, step]
    simp [hh]

theorem clearsHeader_of_lost (h : s.inHeader = true) (h' : ¬ (s.stepAt c).1.inHeader = true) :
    s.clearsHeader c = true := by
  rw [clearsHeader]
  rcases role_of_inHeader_lost h h' with hr | hr | ⟨hp, hr⟩
  · have hb : c.opensBegin = true := Role.ofCursor_eq_iff.1 hr
    rw [hb]
    rfl
  · have hq : c.isQuotedBody = true := Role.ofCursor_eq_iff.1 hr
    rw [hq, Bool.or_true]
    rfl
  · obtain ⟨hc, hn⟩ := Role.ofCursor_eq_iff.1 hr
    simp [closesPackage, hp, hc, hn]

theorem package_of_createdPackage (h : c.createdPackage? = some name) :
    (s.stepAt c).1.package = some name := by
  rw [Cursor.createdPackage?, Option.ite_none_right_eq_some] at h
  rw [stepAt_of_describes (r := .createsPackage name) h, step]

theorem created_or_ends_of_lost (h : s.package = some name)
    (h' : (s.stepAt c).1.package ≠ some name) :
    c.createdPackage?.isSome = true ∨ c.endsWithName name = true := by
  rcases role_of_package_lost h h' with ⟨other, hr⟩ | hr
  · obtain ⟨hk, hn⟩ := Role.ofCursor_eq_iff.1 hr
    exact .inl (by simp [Cursor.createdPackage?, hk, hn])
  · obtain ⟨hc, hn⟩ := Role.ofCursor_eq_iff.1 hr
    exact .inr (by simp [Cursor.endsWithName, hc, hn])

end Nesting

variable {tokens : List Token} {j k : Nat}

theorem canTerminate_of_mem_boundaries (h : j ∈ boundaries tokens) :
    (nestingAt tokens j).canTerminate = true := by
  obtain ⟨c, -, hend⟩ := holdsAt_iff.1 (mem_boundaries_iff.1 h)
  exact (Nesting.canTerminate_of_ends hend).1

theorem inHeader_succ_of_holdsAt (h : holdsAt tokens Nesting.startsHeader k = true) :
    (nestingAt tokens (k + 1)).inHeader = true := by
  obtain ⟨c, hc, hh⟩ := holdsAt_iff.1 h
  rw [nestingAt_succ hc]
  exact Nesting.inHeader_of_startsHeader hh

theorem package_succ_of_holdsAt {name : List Char}
    (h : holdsAt tokens (fun _ c => c.createdPackage? == some name) k = true) :
    (nestingAt tokens (k + 1)).package = some name := by
  obtain ⟨c, hc, hn⟩ := holdsAt_iff.1 h
  rw [nestingAt_succ hc]
  exact Nesting.package_of_createdPackage (eq_of_beq hn)

/-- A statement never ends inside an open construct. Of the tokens between any place and a boundary
after it, at least as many close as open a block; the body of a header that starts there, or the end
of its package, comes before the boundary; and the last package made there is closed by its name. -/
theorem closed_at_boundary (hj : j ∈ boundaries tokens) (hkj : k < j) :
    ((cursors tokens).extract k j).countP Cursor.opensConstruct ≤
        ((cursors tokens).extract k j).countP Cursor.closesBlock ∧
      (holdsAt tokens Nesting.startsHeader k = true →
        ∃ m, k < m ∧ m < j ∧ holdsAt tokens Nesting.clearsHeader m = true) ∧
      ∀ name, holdsAt tokens (fun _ c => c.createdPackage? == some name) k = true →
        (∀ m < j, k < m → holdsAt tokens (fun _ c => c.createdPackage?.isSome) m = false) →
        ∃ m, k < m ∧ m < j ∧ holdsAt tokens (fun _ c => c.endsWithName name) m = true := by
  have hterm := canTerminate_of_mem_boundaries hj
  simp only [Nesting.canTerminate, Bool.and_eq_true, beq_iff_eq, Bool.not_eq_true'] at hterm
  obtain ⟨⟨hdepth, hheader⟩, hpackage⟩ := hterm
  refine ⟨?_, ?_, ?_⟩
  · have hrun := Nesting.depth_add_countP_le (nestingAt tokens k) ((cursors tokens).extract k j)
    rw [← nestingAt_eq_run (Nat.le_of_lt hkj), hdepth] at hrun
    omega
  · intro hstart
    obtain ⟨m, c, hkm, hmj, hc, hm, hlost⟩ :=
      exists_step_of_lost (p := fun s => s.inHeader = true) hkj (inHeader_succ_of_holdsAt hstart)
        (by simp [hheader])
    exact ⟨m, hkm, hmj, holdsAt_iff.2 ⟨c, hc, Nesting.clearsHeader_of_lost hm hlost⟩⟩
  · intro name hmade hlast
    obtain ⟨m, c, hkm, hmj, hc, hm, hlost⟩ :=
      exists_step_of_lost (p := fun s => s.package = some name) hkj (package_succ_of_holdsAt hmade)
        (by simp_all [Nesting.inPackage])
    refine ⟨m, hkm, hmj, holdsAt_iff.2 ⟨c, hc, ?_⟩⟩
    have hnone := hlast m hmj hkm
    rw [holdsAt, hc, Option.any_some] at hnone
    rcases Nesting.created_or_ends_of_lost hm hlost with hmakes | hends
    · rw [hmakes] at hnone
      cases hnone
    · exact hends

/-- A package with a bodiless routine and one with a body. -/
theorem closed_at_boundary_of_package :
    let script := SqlScript.tokens
      "CREATE PACKAGE p AS PROCEDURE q; FUNCTION f IS BEGIN x; END; END p;".toList
    30 ∈ boundaries script ∧ holdsAt script Nesting.startsHeader 8 = true ∧
      (∃ m, 8 < m ∧ m < 30 ∧ holdsAt script Nesting.clearsHeader m = true) ∧
      ∃ m, 0 < m ∧ m < 30 ∧ holdsAt script (fun _ c => c.endsWithName ['p']) m = true := by
  intro script
  have hj : 30 ∈ boundaries script := by decide +kernel
  have hheader : holdsAt script Nesting.startsHeader 8 = true := by decide +kernel
  have hmade : holdsAt script (fun _ c => c.createdPackage? == some ['p']) 0 = true := by
    decide +kernel
  have hlast : ∀ m < 30, 0 < m →
      holdsAt script (fun _ c => c.createdPackage?.isSome) m = false := by
    decide +kernel
  exact ⟨hj, hheader, (closed_at_boundary (k := 8) hj (by decide)).2.1 hheader,
    (closed_at_boundary (k := 0) hj (by decide)).2.2 ['p'] hmade hlast⟩

end SqlScript
