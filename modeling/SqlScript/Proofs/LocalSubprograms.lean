import SqlScript.Proofs.NestedStatements

namespace SqlScript

open Nesting

/-- Declarations, each with its semicolon. A subprogram has declarations of its own in front of its
body. -/
inductive Declarations : List Token → List Token → Prop
  | nil {after} : Declarations [] after
  | item {ws t ds after} (hws : Items .words ws (t :: (ds ++ after))) (ht : t.kind = .terminator)
      (hds : Declarations ds after) : Declarations (ws ++ t :: ds) after
  | subprogram {r ws ds block vs t others after} (hr : r.keyword = .routine)
      (hws : Items .words ws (ds ++ (block ++ (vs ++ t :: (others ++ after)))))
      (hds : Declarations ds (block ++ (vs ++ t :: (others ++ after))))
      (hblock : IsBlock .body block (vs ++ t :: (others ++ after)))
      (hvs : Items .words vs (t :: (others ++ after))) (ht : t.kind = .terminator)
      (hothers : Declarations others after) :
      Declarations (r :: (ws ++ (ds ++ (block ++ (vs ++ t :: others))))) after

variable {source head ws hs ds block vs rest after : List Token} {mark : Token}

theorem Declarations.isHeader_or_exists_body (hds : Declarations ds after) :
    (IsHeader ds after ∧ ∀ t ∈ ds, t.keyword ≠ .routine) ∨
      ∃ hs block vs t others, ds = hs ++ (block ++ (vs ++ t :: others)) ∧
        (∃ r ∈ hs, r.keyword = .routine) ∧
        IsHeader hs (block ++ (vs ++ t :: (others ++ after))) ∧
        IsBlock .body block (vs ++ t :: (others ++ after)) ∧
        Items .words vs (t :: (others ++ after)) ∧ t.kind = .terminator := by
  induction hds with
  | nil => exact .inl ⟨trivial, by simp⟩
  | @item ws t ds after hws ht hds ih =>
    have hheader := hws.isHeader rfl rfl
    rcases ih with ⟨hh, hno⟩ | ⟨hs, block, vs, u, others, rfl, ⟨r, hr, hk⟩, hhs, hrest⟩
    · refine .inl ⟨(isHeader_append ..).2 ⟨hheader, .inr (.inl ht), hh⟩, ?_⟩
      simp only [List.forall_mem_cons, List.forall_mem_append]
      exact ⟨hws.keyword_ne_routine, by simp [Token.keyword_of_kind_ne (t := t) (by simp [ht])],
        hno⟩
    · refine .inr ⟨ws ++ t :: hs, block, vs, u, others, by simp, ⟨r, by simp [hr], hk⟩, ?_, hrest⟩
      exact (isHeader_append ..).2 ⟨by simpa using hheader, .inr (.inl ht), hhs⟩
  | @subprogram r ws ds block vs t others after hr hws hds hblock hvs ht hothers ihds _ =>
    have hheader := hws.isHeader rfl rfl
    -- The first body is that of the innermost subprogram, so the inner declarations go first.
    rcases ihds with ⟨hh, -⟩ | ⟨hs, body, us, u, later, rfl, -, hhs, hrest⟩
    · refine .inr ⟨r :: (ws ++ ds), block, vs, t, others, by simp, ⟨r, by simp, hr⟩, ?_, hblock,
        hvs, ht⟩
      exact ⟨.inr (.inr hr), (isHeader_append ..).2 ⟨hheader, hh⟩⟩
    · refine .inr ⟨r :: (ws ++ hs), body, us, u, later ++ (block ++ (vs ++ t :: others)), by simp,
        ⟨r, by simp, hr⟩, ?_, ?_⟩
      · exact ⟨.inr (.inr hr), (isHeader_append ..).2
          ⟨by simpa using hheader, by simpa using hhs⟩⟩
      · simpa using hrest

theorem Declarations.isSolid (hds : Declarations ds after) : ∀ t ∈ ds, IsSolid t := by
  induction hds with
  | nil => simp
  | item hws ht _ ih =>
    simp only [List.forall_mem_cons, List.forall_mem_append]
    exact ⟨hws.isSolid, isSolid_of_terminator ht, ih⟩
  | subprogram hr hws _ hblock hvs ht _ ihds ihothers =>
    simp only [List.forall_mem_cons, List.forall_mem_append]
    exact ⟨isSolid_of_keyword hr (by simp), hws.isSolid, ihds, hblock.isSolid, hvs.isSolid,
      isSolid_of_terminator ht, ihothers⟩

/-- A statement with a header ends at the first semicolon after the body of the header. -/
theorem cutAt_of_header
    (hsource : significant source = head ++ (hs ++ (block ++ (vs ++ mark :: rest))))
    (hhead : StartsHeader head) (hhs : IsHeader hs (block ++ (vs ++ mark :: rest)))
    (hq : NoQuotedBody hs) (hblock : IsBlock .body block (vs ++ mark :: rest))
    (hvs : Items .words vs (mark :: rest)) (hmark : mark.kind = .terminator)
    (hslash : ∀ t ∈ rest.head?, t.kind ≠ .separator) :
    ∃ first others, source = first ++ mark :: others ∧
      significant first = head ++ (hs ++ (block ++ vs)) ∧ CutAt first mark others := by
  have hrest : ∀ t ∈ mark :: rest, t.isSignificant = true := by
    intro t ht
    have hmem : t ∈ significant source := by
      rw [hsource]
      simp_all
    exact isSignificant_of_mem_significant hmem
  have hlist : head ++ (hs ++ (block ++ (vs ++ mark :: rest))) =
      (head ++ hs) ++ (block ++ vs) ++ mark :: rest := by simp
  rw [hlist] at hsource
  have hsolid : ∀ t ∈ (head ++ hs) ++ (block ++ vs), IsSolid t := by
    simp only [List.forall_mem_append]
    exact ⟨⟨hhead.isSolid, hhs.isSolid⟩, hblock.isSolid, hvs.isSolid⟩
  have hbody : ∀ t ∈ block ++ (vs ++ mark :: rest), t.isSignificant = true := by
    simp only [List.forall_mem_append]
    exact ⟨fun t ht => (hblock.isSolid t ht).isSignificant, hvs.isSignificant, hrest⟩
  obtain ⟨first, others, heq, hfirst, -, hcut⟩ := cutAt_of_significant hsource hmark
    (fun t ht => (hsolid t ht).not_separator) hslash (by
      rw [cursorsBetween_append, List.append_assoc]
      exact (hhead.passes_append hhs hq hbody).append (passes_body hblock hvs hrest))
  exact ⟨first, others, heq, by simpa using hfirst, hcut⟩

/-- Without local subprograms a statement with declarations ends at the semicolon after its own
body. With one it ends earlier, at the semicolon after the first body among its declarations. -/
theorem cutAt_of_declarations
    (hsource : significant source = head ++ (ws ++ (ds ++ (block ++ (vs ++ mark :: rest)))))
    (hhead : StartsHeader head) (hws : Items .words ws (ds ++ (block ++ (vs ++ mark :: rest))))
    (hds : Declarations ds (block ++ (vs ++ mark :: rest))) (hq : NoQuotedBody (ws ++ ds))
    (hblock : IsBlock .body block (vs ++ mark :: rest)) (hvs : Items .words vs (mark :: rest))
    (hmark : mark.kind = .terminator) (hslash : ∀ t ∈ rest.head?, t.kind ≠ .separator) :
    ((∀ t ∈ ds, t.keyword ≠ .routine) →
        ∃ first others, source = first ++ mark :: others ∧
          significant first = head ++ (ws ++ (ds ++ (block ++ vs))) ∧ CutAt first mark others) ∧
      ((∃ t ∈ ds, t.keyword = .routine) →
        ∃ hs body us t later, ds = hs ++ (body ++ (us ++ t :: later)) ∧ t.kind = .terminator ∧
          IsBlock .body body (us ++ t :: (later ++ (block ++ (vs ++ mark :: rest)))) ∧
          ∃ first others, source = first ++ t :: others ∧
            significant first = head ++ (ws ++ (hs ++ (body ++ us))) ∧ CutAt first t others) := by
  have hsolid := hds.isSolid
  rcases hds.isHeader_or_exists_body with
    ⟨hheader, hno⟩ | ⟨hs, body, us, t, later, rfl, ⟨r, hr, hk⟩, hheader, hbody, hus, ht⟩
  · refine ⟨fun _ => ?_, fun ⟨t, ht, hk⟩ => absurd hk (hno t ht)⟩
    have hlist : significant source =
        head ++ ((ws ++ ds) ++ (block ++ (vs ++ mark :: rest))) := by simpa using hsource
    have hcut := cutAt_of_header hlist hhead
      ((isHeader_append ..).2 ⟨hws.isHeader rfl rfl, hheader⟩) hq hblock hvs hmark hslash
    simpa using hcut
  · refine ⟨fun hno => absurd hk (hno r (by simp [hr])), fun _ => ?_⟩
    have hnext : ∀ u ∈ (later ++ (block ++ (vs ++ mark :: rest))).head?, u.kind ≠ .separator := by
      intro u hu
      cases later with
      | nil =>
        cases hblock with
        | mk hb _ _ =>
          cases hu
          exact (isSolid_of_keyword hb.keyword (by simp)).not_separator
      | cons v later =>
        cases hu
        exact (hsolid u (by simp)).not_separator
    rw [← List.append_assoc] at hq
    have hlist : significant source = head ++ ((ws ++ hs) ++ (body ++ (us ++ t ::
        (later ++ (block ++ (vs ++ mark :: rest)))))) := by simpa using hsource
    have hcut := cutAt_of_header hlist hhead
      ((isHeader_append ..).2 ⟨by simpa using hws.isHeader rfl rfl, hheader⟩)
      (List.IsChain.left_of_append hq) hbody hus ht hnext
    exact ⟨hs, body, us, t, later, rfl, ht, hbody, by simpa using hcut⟩

open Token in
theorem cutAt_of_declarations_of_procedure :
    ∃ first t others, t.kind = .terminator ∧ CutAt first t others ∧ first ++ t :: others =
      tokens "DECLARE PROCEDURE p IS BEGIN NULL; END; BEGIN p; END; SELECT 1;".toList := by
  have hds : Declarations (ofWord "PROCEDURE" :: ([ofWord "p", ofWord "IS"] ++ ([] ++
      (ofWord "BEGIN" :: ([ofWord "NULL", semicolon] ++ [ofWord "END"]) ++ ([] ++ [semicolon])))))
      (ofWord "BEGIN" :: ([ofWord "p", semicolon] ++ [ofWord "END"]) ++
        ([] ++ semicolon :: [ofWord "SELECT", ofWord "1", semicolon])) :=
    .subprogram (by decide +kernel) (.inert (inert_ofWord (by decide +kernel))
        (.inert (inert_ofWord (by decide +kernel)) .nil)) .nil
      (.mk ⟨by decide +kernel, by decide +kernel⟩
        (.inert (inert_ofWord (by decide +kernel)) (.semicolon rfl rfl .nil))
        ⟨by decide +kernel, by decide +kernel⟩) .nil rfl .nil
  have hblock : IsBlock .body (ofWord "BEGIN" :: ([ofWord "p", semicolon] ++ [ofWord "END"]))
      ([] ++ semicolon :: [ofWord "SELECT", ofWord "1", semicolon]) :=
    .mk ⟨by decide +kernel, by decide +kernel⟩
      (.inert (inert_ofWord (by decide +kernel)) (.semicolon rfl rfl .nil))
      ⟨by decide +kernel, by decide +kernel⟩
  have hquoted : NoQuotedBody ([] ++ (ofWord "PROCEDURE" :: ([ofWord "p", ofWord "IS"] ++ ([] ++
      (ofWord "BEGIN" :: ([ofWord "NULL", semicolon] ++ [ofWord "END"]) ++
        ([] ++ [semicolon])))))) := by
    rw [NoQuotedBody]
    decide +kernel
  have hsource : significant (tokens
      "DECLARE PROCEDURE p IS BEGIN NULL; END; BEGIN p; END; SELECT 1;".toList) =
      [ofWord "DECLARE"] ++ ([] ++ ((ofWord "PROCEDURE" :: ([ofWord "p", ofWord "IS"] ++ ([] ++
        (ofWord "BEGIN" :: ([ofWord "NULL", semicolon] ++ [ofWord "END"]) ++
          ([] ++ [semicolon]))))) ++
      ((ofWord "BEGIN" :: ([ofWord "p", semicolon] ++ [ofWord "END"])) ++
        ([] ++ semicolon :: [ofWord "SELECT", ofWord "1", semicolon])))) := by
    decide +kernel
  obtain ⟨hs, body, us, t, later, -, ht, -, first, others, hscript, -, hcut⟩ :=
    (cutAt_of_declarations hsource (.declare (by decide +kernel)) .nil hds hquoted hblock .nil rfl
      (by decide +kernel)).2 ⟨ofWord "PROCEDURE", by simp, by decide +kernel⟩
  exact ⟨first, t, others, ht, hcut, hscript.symm⟩

/-- The body of a local procedure ends the statement that declares it. -/
theorem texts_of_local_procedure :
    (split .verbatim
        "DECLARE PROCEDURE p IS BEGIN NULL; END; BEGIN p; END; SELECT 1;".toList).texts =
      ["DECLARE PROCEDURE p IS BEGIN NULL; END;".toList, " BEGIN p; END;".toList,
        " SELECT 1;".toList, []] := by
  decide +kernel

end SqlScript
