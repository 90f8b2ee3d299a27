import SqlScript.Proofs.Runs
import Mathlib.Data.List.Forall2

namespace SqlScript

/-- The texts are paired so that two of one side are the same if their partners are. -/
def Faithful (pairs : List Char → List Char → Prop) : Prop :=
  ∀ a a' b b', pairs a a' → pairs b b' → (a = b ↔ a' = b')

theorem faithful_eq : Faithful Eq := by
  rintro a _ b _ rfl rfl
  rfl

/-- The roles do the same, with names that are paired. -/
inductive Role.Alike (pairs : List Char → List Char → Prop) : Role → Role → Prop
  | createsPackage {name name'} (h : pairs name name') :
      Alike pairs (.createsPackage name) (.createsPackage name')
  | closes {next next'} (h : Option.Rel pairs next next') :
      Alike pairs (.closes next) (.closes next')
  | same {r} (hpackage : ∀ name, r ≠ .createsPackage name) (hcloses : ∀ next, r ≠ .closes next) :
      Alike pairs r r

/-- The same constructs are open, and packages whose names are paired. -/
structure Nesting.SameOpen (pairs : List Char → List Char → Prop) (s s' : Nesting) : Prop where
  depth : s.depth = s'.depth
  inHeader : s.inHeader = s'.inHeader
  package : Option.Rel pairs s.package s'.package

variable {pairs : List Char → List Char → Prop} {r r' : Role} {next next' : Option (List Char)}
  {s s' : Nesting}

theorem eq_iff_of_rel (hpairs : Faithful pairs) (hnext : Option.Rel pairs next next')
    {package package' : Option (List Char)} (hpackage : Option.Rel pairs package package') :
    next = package ↔ next' = package' := by
  cases hnext with
  | none => cases hpackage <;> simp
  | some hname =>
    cases hpackage with
    | none => simp
    | some hname' => simpa using hpairs _ _ _ _ hname hname'

theorem rel_eq_iff {a b : Option (List Char)} : Option.Rel Eq a b ↔ a = b := by
  constructor
  · rintro (rfl | _) <;> rfl
  · rintro rfl
    cases a with
    | none => exact .none
    | some => exact .some rfl

theorem Role.alike_refl (r : Role) : Alike Eq r r := by
  cases r with
  | createsPackage name => exact .createsPackage rfl
  | closes next => exact .closes (rel_eq_iff.2 rfl)
  | _ => exact .same (by simp) (by simp)

namespace Nesting

theorem SameOpen.inPackage (h : SameOpen pairs s s') : s.inPackage = s'.inPackage := by
  have hpackage := h.package
  rw [Nesting.inPackage, Nesting.inPackage]
  generalize s.package = p at hpackage
  generalize s'.package = p' at hpackage
  cases hpackage <;> rfl

theorem SameOpen.canTerminate (h : SameOpen pairs s s') : s.canTerminate = s'.canTerminate := by
  rw [Nesting.canTerminate, Nesting.canTerminate, h.depth, h.inHeader, h.inPackage]

theorem SameOpen.close (hpairs : Faithful pairs) (h : SameOpen pairs s s')
    (hnext : Option.Rel pairs next next') : SameOpen pairs (s.close next) (s'.close next') := by
  have hends : (s.inPackage = true ∧ next = s.package) ↔
      (s'.inPackage = true ∧ next' = s'.package) := by
    rw [h.inPackage, eq_iff_of_rel hpairs hnext h.package]
  rw [close_eq, close_eq]
  simp only [hends]
  split
  · exact ⟨by simp [h.depth], rfl, .none⟩
  · exact ⟨by simp [h.depth], h.inHeader, h.package⟩

theorem SameOpen.step (hpairs : Faithful pairs) (h : SameOpen pairs s s')
    (hr : Role.Alike pairs r r') :
    (s.step r).2 = (s'.step r').2 ∧ SameOpen pairs (s.step r).1 (s'.step r').1 := by
  cases hr with
  | createsPackage hname => exact ⟨rfl, h.depth, h.inHeader, .some hname⟩
  | closes hnext => exact ⟨rfl, h.close hpairs hnext⟩
  | same hpackage hcloses =>
    cases r with
    | opensBegin => exact ⟨rfl, congrArg (· + 1) h.depth, rfl, h.package⟩
    | opensCase => exact ⟨rfl, congrArg (· + 1) h.depth, h.inHeader, h.package⟩
    | createsTypeBody => exact ⟨rfl, congrArg (· + 1) h.depth, h.inHeader, h.package⟩
    | createsPackage name => exact absurd rfl (hpackage name)
    | createsOther => exact ⟨rfl, h.depth, h.inHeader, h.package⟩
    | declares => exact ⟨rfl, h.depth, rfl, h.package⟩
    | routine created method =>
      refine ⟨rfl, h.depth, ?_, h.package⟩
      simp only [Nesting.step, opensHeader, h.depth, h.inHeader, h.inPackage]
    | quotedBody => exact ⟨rfl, h.depth, rfl, h.package⟩
    | closes next => exact absurd rfl (hcloses next)
    | placeholder => exact ⟨rfl, h.depth, h.inHeader, h.package⟩
    | terminator =>
      rw [Nesting.step, Nesting.step, h.canTerminate]
      split
      · exact ⟨rfl, h.depth, h.inHeader, h.package⟩
      · exact ⟨rfl, h⟩
    | inert => exact ⟨rfl, h⟩

/-- The outcomes of steps with the given roles, in order. -/
def steps (state : Nesting) : List Role → List (Nesting × Bool)
  | [] => []
  | r :: rest => state.step r :: (state.step r).1.steps rest

theorem trace_eq_steps (state : Nesting) (cs : List Cursor) :
    state.trace cs = state.steps (cs.map .ofCursor) := by
  induction cs generalizing state with
  | nil => rfl
  | cons c rest ih =>
    rw [trace, List.map_cons, steps, ih]
    rfl

/-- What one step in each run keeps, two runs keep from role to role. -/
theorem forall₂_steps {R : Role → Role → Prop} {Q : Nesting → Nesting → Prop}
    (hstep : ∀ s s' r r', Q s s' → R r r' →
      (s.step r).2 = (s'.step r').2 ∧ Q (s.step r).1 (s'.step r').1)
    (h : Q s s') {rs rs' : List Role} (hrs : List.Forall₂ R rs rs') :
    List.Forall₂ (fun o o' => o.2 = o'.2 ∧ Q o.1 o'.1) (s.steps rs) (s'.steps rs') := by
  induction hrs generalizing s s' with
  | nil => exact .nil
  | cons hr _ ih =>
    have hnext := hstep _ _ _ _ h hr
    exact .cons hnext (ih hnext.2)

end Nesting

end SqlScript
