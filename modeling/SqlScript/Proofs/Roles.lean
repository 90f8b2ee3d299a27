import SqlScript.Role
import Mathlib.Data.List.Basic

namespace SqlScript

theorem Token.kind_of_keyword_ne {t : Token} (h : t.keyword ≠ .plain) : t.kind = .word := by
  by_contra hk
  exact h (keyword_of_kind_ne hk)

namespace Cursor

variable {c : Cursor}

theorem keyword_of_opensBegin (h : c.opensBegin = true) : c.token.keyword = .blockBegin := by
  rw [opensBegin, Bool.and_eq_true] at h
  exact eq_of_beq h.1

theorem keyword_of_opensCase (h : c.opensCase = true) : c.token.keyword = .caseOpen := by
  rw [opensCase, Bool.and_eq_true] at h
  exact eq_of_beq h.1

theorem keyword_of_closesBlock (h : c.closesBlock = true) : c.token.keyword = .blockEnd := by
  rw [closesBlock, Bool.and_eq_true] at h
  exact eq_of_beq h.1

theorem kind_of_isQuotedBody (h : c.isQuotedBody = true) : c.token.kind = .stringLiteral := by
  rw [isQuotedBody, Bool.and_eq_true] at h
  exact eq_of_beq h.1

theorem kind_of_isTerminator (h : c.isTerminator = true) :
    c.token.kind = .separator ∨ c.token.kind = .terminator := by
  rw [isTerminator, Bool.or_eq_true, isSeparator, Bool.and_eq_true, Bool.and_eq_true] at h
  exact h.imp (fun h => eq_of_beq h.1) (fun h => eq_of_beq h.1)

theorem createsTypeBody_of_packageName {name : List Char} (h : c.packageName? = some name) :
    c.createsTypeBody = false := by
  rw [packageName?] at h
  rw [createsTypeBody]
  split
  · next t b rest ho =>
    rw [ho] at h
    by_cases hk : t.keyword = .package
    · simp [hk]
    · simp [hk] at h
  · rfl

end Cursor

namespace Role

variable {c : Cursor} {r : Role}

/-- The condition on a token and its neighbours for each role. -/
def Describes (c : Cursor) : Role → Prop
  | .opensBegin => c.opensBegin = true
  | .opensCase => c.opensCase = true
  | .createsTypeBody => c.token.keyword = .create ∧ c.createsTypeBody = true
  | .createsPackage name => c.token.keyword = .create ∧ c.packageName? = some name
  | .createsOther => c.token.keyword = .alter ∨
      c.token.keyword = .create ∧ c.createsTypeBody = false ∧ c.packageName? = none
  | .declares => c.token.keyword = .declare
  | .routine created method =>
      c.token.keyword = .routine ∧ c.isCreated = created ∧ c.isMethod = method
  | .quotedBody => c.isQuotedBody = true
  | .closes next => c.closesBlock = true ∧ c.following?.map (·.text) = next
  | .placeholder => c.token.kind = .placeholder
  | .terminator => c.isTerminator = true
  | .inert => c.opensBlock = false ∧ c.token.keyword ∉ [.create, .alter, .declare, .routine] ∧
      c.isQuotedBody = false ∧ c.closesBlock = false ∧ c.token.kind ≠ .placeholder ∧
      c.isTerminator = false

theorem ofCursor_of_keyword (h : c.token.keyword ≠ .plain) : ofCursor c = ofKeyword c := by
  rw [ofCursor, Token.kind_of_keyword_ne h]

theorem ofCursor_of_describes (h : r.Describes c) : ofCursor c = r := by
  cases r with
  | opensBegin =>
    have hk := Cursor.keyword_of_opensBegin h
    rw [ofCursor_of_keyword (by simp [hk]), ofKeyword, hk]
    exact if_pos h
  | opensCase =>
    have hk := Cursor.keyword_of_opensCase h
    rw [ofCursor_of_keyword (by simp [hk]), ofKeyword, hk]
    exact if_pos h
  | createsTypeBody =>
    obtain ⟨hk, hb⟩ := h
    rw [ofCursor_of_keyword (by simp [hk]), ofKeyword, hk]
    exact if_pos hb
  | createsPackage name =>
    obtain ⟨hk, hn⟩ := h
    have hb := Cursor.createsTypeBody_of_packageName hn
    rw [ofCursor_of_keyword (by simp [hk]), ofKeyword, hk]
    simp [hb, hn]
  | createsOther =>
    rcases h with hk | ⟨hk, hb, hn⟩
    · rw [ofCursor_of_keyword (by simp [hk]), ofKeyword, hk]
    · rw [ofCursor_of_keyword (by simp [hk]), ofKeyword, hk]
      simp [hb, hn]
  | declares =>
    have hk : c.token.keyword = .declare := h
    rw [ofCursor_of_keyword (by simp [hk]), ofKeyword, hk]
  | routine created method =>
    obtain ⟨hk, rfl, rfl⟩ := h
    rw [ofCursor_of_keyword (by simp [hk]), ofKeyword, hk]
  | quotedBody =>
    rw [ofCursor, Cursor.kind_of_isQuotedBody h]
    exact if_pos h
  | closes next =>
    obtain ⟨hc, rfl⟩ := h
    have hk := Cursor.keyword_of_closesBlock hc
    rw [ofCursor_of_keyword (by simp [hk]), ofKeyword, hk]
    exact if_pos hc
  | placeholder => rw [ofCursor, show c.token.kind = .placeholder from h]
  | terminator =>
    rcases Cursor.kind_of_isTerminator h with hk | hk <;> rw [ofCursor, hk] <;> exact if_pos h
  | inert =>
    obtain ⟨ho, hk, hq, hc, hp, ht⟩ := h
    rw [Cursor.opensBlock, Bool.or_eq_false_iff] at ho
    simp only [List.mem_cons, List.not_mem_nil, or_false, not_or] at hk
    rw [ofCursor]
    split
    · rw [ofKeyword]
      split <;> simp_all
    all_goals simp_all

theorem exists_describes (c : Cursor) : ∃ r : Role, r.Describes c := by
  by_cases hb : c.opensBegin = true
  · exact ⟨.opensBegin, hb⟩
  by_cases ho : c.opensCase = true
  · exact ⟨.opensCase, ho⟩
  by_cases hk : c.token.keyword = .create
  · by_cases ht : c.createsTypeBody = true
    · exact ⟨.createsTypeBody, hk, ht⟩
    · cases hn : c.packageName? with
      | none => exact ⟨.createsOther, .inr ⟨hk, Bool.eq_false_iff.2 ht, hn⟩⟩
      | some name => exact ⟨.createsPackage name, hk, hn⟩
  by_cases ha : c.token.keyword = .alter
  · exact ⟨.createsOther, .inl ha⟩
  by_cases hd : c.token.keyword = .declare
  · exact ⟨.declares, hd⟩
  by_cases hr : c.token.keyword = .routine
  · exact ⟨.routine _ _, hr, rfl, rfl⟩
  by_cases hq : c.isQuotedBody = true
  · exact ⟨.quotedBody, hq⟩
  by_cases hc : c.closesBlock = true
  · exact ⟨.closes _, hc, rfl⟩
  by_cases hp : c.token.kind = .placeholder
  · exact ⟨.placeholder, hp⟩
  by_cases ht : c.isTerminator = true
  · exact ⟨.terminator, ht⟩
  · refine ⟨.inert, ?_⟩
    simp_all [Describes, Cursor.opensBlock]

theorem describes_ofCursor (c : Cursor) : (ofCursor c).Describes c := by
  obtain ⟨r, h⟩ := exists_describes c
  rwa [ofCursor_of_describes h]

/-- The conditions on the roles exclude each other, and one of them always holds. -/
theorem ofCursor_eq_iff : ofCursor c = r ↔ r.Describes c := by
  constructor
  · rintro rfl
    exact describes_ofCursor c
  · exact ofCursor_of_describes

end Role

end SqlScript
