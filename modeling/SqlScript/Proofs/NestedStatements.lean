import SqlScript.Proofs.Items
import SqlScript.Proofs.Blank
import Mathlib.Data.List.Chain

namespace SqlScript

open Nesting

/-- The start of a header: `DECLARE`, or `CREATE` of a routine. -/
inductive StartsHeader : List Token → Prop
  | declare {t} (ht : t.keyword = .declare) : StartsHeader [t]
  | create {k ms r} (hk : k.keyword = .create) (hms : ∀ m ∈ ms, m.keyword = .modifier)
      (hr : r.keyword = .routine) : StartsHeader (k :: (ms ++ [r]))

/-- The methods of a type body, each with a body of its own and a semicolon after it. -/
inductive Methods : List Token → List Token → Prop
  | nil {after} : Methods [] after
  | cons {ws m r hs block vs t xs after}
      (hws : Items .words ws (m :: r :: (hs ++ (block ++ (vs ++ t :: (xs ++ after))))))
      (hm : m.keyword = .method) (hr : r.keyword = .routine)
      (hhs : Items .header hs (block ++ (vs ++ t :: (xs ++ after))))
      (hblock : IsBlock .body block (vs ++ t :: (xs ++ after)))
      (hvs : Items .words vs (t :: (xs ++ after))) (ht : t.kind = .terminator)
      (hxs : Methods xs after) :
      Methods (ws ++ m :: r :: (hs ++ (block ++ (vs ++ t :: xs)))) after

/-- The tokens make up a statement if the tokens `after` follow them. -/
inductive IsStatement : List Token → List Token → Prop
  | line {xs after} (hxs : Items .line xs after) : IsStatement xs after
  | routine {ws head hs block vs after}
      (hws : Items .words ws (head ++ (hs ++ (block ++ (vs ++ after)))))
      (hhead : StartsHeader head) (hhs : Items .header hs (block ++ (vs ++ after)))
      (hq : NoQuotedBody hs) (hblock : IsBlock .body block (vs ++ after))
      (hvs : Items .words vs after) :
      IsStatement (ws ++ (head ++ (hs ++ (block ++ vs)))) after
  | typeBody {k ms ty bd ws methods e vs after} (hk : k.keyword = .create)
      (hms : ∀ m ∈ ms, m.keyword = .modifier) (hty : ty.keyword = .objectType)
      (hbd : bd.keyword = .body) (hws : Items .words ws (methods ++ e :: (vs ++ after)))
      (hmethods : Methods methods (e :: (vs ++ after))) (he : EndsBlock e (vs ++ after))
      (hvs : Items .words vs after) :
      IsStatement (k :: (ms ++ ty :: bd :: (ws ++ (methods ++ e :: vs)))) after

/-- The tokens make up statements, each but the last with its semicolon. -/
inductive Script : List Token → List (List Token) → Prop
  | last {xs} (hxs : IsStatement xs []) : Script xs [xs]
  | cons {xs t rest statements} (hxs : IsStatement xs (t :: rest)) (ht : t.kind = .terminator)
      (hrest : Script rest statements) : Script (xs ++ t :: rest) ((xs ++ [t]) :: statements)

variable {before xs after rest : List Token} {d : Nat} {h : Bool}

theorem ofCursor_of_word {c : Cursor}
    (hk : c.token.keyword ∈ [.package, .objectType, .body, .modifier, .method]) :
    Role.ofCursor c = .inert := by
  simp only [List.mem_cons, List.not_mem_nil, or_false] at hk
  rcases hk with hk | hk | hk | hk | hk <;>
    rw [Role.ofCursor_of_keyword (by simp [hk]), Role.ofKeyword, hk]

theorem passes_words {p : Option (List Char)} {ws : List Token}
    (hws : ∀ w ∈ ws, w.keyword ∈ [.package, .objectType, .body, .modifier, .method]) :
    Passes (Open d h p) (cursorsBetween before ws after) (Open d h p) := by
  induction ws generalizing before with
  | nil => exact .nil
  | cons w ws ih =>
    rw [cursorsBetween_cons]
    refine (passes_idle ?_).cons (ih fun v hv => hws v (by simp [hv]))
    rw [ofCursor_of_word (hws w (by simp))]
    simp

theorem object_of_modifiers (before : List Token) (k : Token) {ms : List Token}
    (hms : ∀ m ∈ ms, m.keyword = .modifier)
    (hsig : ∀ t ∈ ms ++ rest, t.isSignificant = true)
    (hrest : ∀ t ∈ rest.head?, t.keyword ≠ .modifier) :
    Cursor.object ⟨before, k, ms ++ rest⟩ = rest := by
  have hdrop : (ms ++ rest).dropWhile (·.keyword == .modifier) =
      rest.dropWhile (·.keyword == .modifier) :=
    List.dropWhile_append_of_pos fun m hm => by simp [hms m hm]
  rw [Cursor.object, ← significant, significant_eq_self hsig, hdrop]
  cases rest with
  | nil => rfl
  | cons t others => exact List.dropWhile_cons_of_neg (by simp [hrest t (by simp)])

theorem isCreated_of_modifiers {k r : Token} {ms : List Token} (hk : k.keyword = .create)
    (hms : ∀ m ∈ ms, m.keyword = .modifier) :
    Cursor.isCreated ⟨ms.reverse ++ k :: before, r, rest⟩ = true := by
  have hnone : ms.reverse.find? (fun t => t.isSignificant && t.keyword != .modifier) = none :=
    List.find?_eq_none.2 fun m hm => by simp [hms m (List.mem_reverse.1 hm)]
  have hsig : k.isSignificant = true := Token.isSignificant_of_keyword_ne (by simp [hk])
  rw [Cursor.isCreated, List.find?_append, hnone, Option.none_or,
    List.find?_cons_of_pos (by simp [hsig, hk])]
  simp [hk]

theorem StartsHeader.passes {head : List Token} (hhead : StartsHeader head)
    (hsig : ∀ t ∈ head ++ after, t.isSignificant = true) :
    Passes (Open d h none) (cursorsBetween before head after) (Open d true none) := by
  cases hhead with
  | declare ht => exact passes_declare ht
  | @create k ms r hk hms hr =>
    have hobject : Cursor.object ⟨before, k, ms ++ r :: after⟩ = r :: after :=
      object_of_modifiers _ _ hms (fun t ht => hsig t (by simp_all)) (by simp [hr])
    have hidle : Role.ofCursor ⟨before, k, ms ++ r :: after⟩ = .createsOther := by
      refine Role.ofCursor_of_describes (r := .createsOther) (.inr ⟨hk, ?_, ?_⟩)
      · rw [Cursor.createsTypeBody, hobject]
        cases after <;> simp [hr]
      · simp [Cursor.packageName?, hobject, hr]
    rw [cursorsBetween_cons, cursorsBetween_append, List.append_assoc]
    exact (passes_idle (by simp [hidle])).cons
      ((passes_words fun m hm => by simp [hms m hm]).append
        (passes_routine hr (.inr (.inr (.inl (isCreated_of_modifiers hk hms))))))

theorem passes_body {block vs : List Token} (hblock : IsBlock .body block (vs ++ after))
    (hvs : Items .words vs after) (hafter : ∀ t ∈ after, t.isSignificant = true) :
    Passes (Open d h none) (cursorsBetween before (block ++ vs) after) (Open d false none) := by
  rw [cursorsBetween_append]
  exact (hblock.passes (List.forall_mem_append.2 ⟨hvs.isSignificant, hafter⟩)).append
    (hvs.passes_words hafter)

/-- The token is no layout and no slash. -/
structure IsSolid (t : Token) : Prop where
  isSignificant : t.isSignificant = true
  not_separator : t.kind ≠ .separator

theorem isSolid_of_keyword {k : Keyword} {t : Token} (ht : t.keyword = k) (hk : k ≠ .plain) :
    IsSolid t :=
  ⟨Token.isSignificant_of_keyword_ne (by rwa [ht]),
    by rw [Token.kind_of_keyword_ne (by rwa [ht])]; decide⟩

theorem isSolid_of_terminator {t : Token} (ht : t.kind = .terminator) : IsSolid t :=
  ⟨Token.isSignificant_of_terminator ht, by simp [ht]⟩

theorem Items.isSolid {shape : Shape} (hxs : Items shape xs after) : ∀ t ∈ xs, IsSolid t :=
  fun t ht => ⟨hxs.isSignificant t ht, hxs.kind_ne_separator t ht⟩

theorem IsHeader.isSolid (hxs : IsHeader xs after) : ∀ t ∈ xs, IsSolid t := by
  induction xs with
  | nil => simp
  | cons t xs ih =>
    obtain ⟨ht, hxs⟩ := hxs
    refine List.forall_mem_cons.2 ⟨?_, ih hxs⟩
    rcases ht with ht | ht | ht
    · exact ⟨ht.isSignificant, ht.not_separator⟩
    · exact isSolid_of_terminator ht
    · exact isSolid_of_keyword ht (by simp)

theorem IsBlock.isSolid {shape : Shape} {block : List Token} (hblock : IsBlock shape block after) :
    ∀ t ∈ block, IsSolid t := by
  obtain ⟨hb, hys, he⟩ := hblock
  simp only [List.forall_mem_cons, List.forall_mem_append]
  exact ⟨isSolid_of_keyword hb.keyword (by simp), hys.isSolid,
    isSolid_of_keyword he.keyword (by simp), by simp⟩

theorem StartsHeader.isSolid {head : List Token} (hhead : StartsHeader head) :
    ∀ t ∈ head, IsSolid t := by
  cases hhead with
  | declare ht => simpa using isSolid_of_keyword ht (by simp)
  | create hk hms hr =>
    simp only [List.forall_mem_cons, List.forall_mem_append]
    exact ⟨isSolid_of_keyword hk (by simp), fun m hm => isSolid_of_keyword (hms m hm) (by simp),
      isSolid_of_keyword hr (by simp), by simp⟩

theorem StartsHeader.exists_last {head : List Token} (hhead : StartsHeader head) :
    ∃ pre u, head = pre ++ [u] ∧ u.isSignificant = true ∧ u.keyword ≠ .bodyIntro := by
  cases hhead with
  | @declare t ht =>
    exact ⟨[], t, rfl, (isSolid_of_keyword ht (by simp)).isSignificant, by simp [ht]⟩
  | @create k ms r _ _ hr =>
    exact ⟨k :: ms, r, rfl, (isSolid_of_keyword hr (by simp)).isSignificant, by simp [hr]⟩

theorem Methods.isSolid {ms : List Token} (hms : Methods ms after) : ∀ t ∈ ms, IsSolid t := by
  induction hms with
  | nil => simp
  | cons hws hm hr hhs hblock hvs ht _ ih =>
    simp only [List.forall_mem_cons, List.forall_mem_append]
    exact ⟨hws.isSolid, isSolid_of_keyword hm (by simp), isSolid_of_keyword hr (by simp),
      hhs.isSolid, hblock.isSolid, hvs.isSolid, isSolid_of_terminator ht, ih⟩

theorem IsStatement.isSolid (hxs : IsStatement xs after) : ∀ t ∈ xs, IsSolid t := by
  cases hxs with
  | line hxs => exact hxs.isSolid
  | routine hws hhead hhs _ hblock hvs =>
    simp only [List.forall_mem_append]
    exact ⟨hws.isSolid, hhead.isSolid, hhs.isSolid, hblock.isSolid, hvs.isSolid⟩
  | typeBody hk hms hty hbd hws hmethods he hvs =>
    simp only [List.forall_mem_cons, List.forall_mem_append]
    exact ⟨isSolid_of_keyword hk (by simp), fun m hm => isSolid_of_keyword (hms m hm) (by simp),
      isSolid_of_keyword hty (by simp), isSolid_of_keyword hbd (by simp), hws.isSolid,
      hmethods.isSolid, isSolid_of_keyword he.keyword (by simp), hvs.isSolid⟩

theorem Script.isSolid {statements : List (List Token)} (hxs : Script xs statements) :
    ∀ t ∈ xs, IsSolid t := by
  induction hxs with
  | last hxs => exact hxs.isSolid
  | cons hxs ht _ ih =>
    simp only [List.forall_mem_cons, List.forall_mem_append]
    exact ⟨hxs.isSolid, isSolid_of_terminator ht, ih⟩

theorem Methods.passes {ms : List Token} (hms : Methods ms after)
    (hafter : ∀ t ∈ after, t.isSignificant = true) :
    Passes (Open 1 false none) (cursorsBetween before ms after) (Open 1 false none) := by
  induction hms generalizing before with
  | nil => exact .nil
  | @cons ws m r hs block vs t xs after hws hm hr hhs hblock hvs ht hxs ih =>
    have hrest : ∀ u ∈ t :: (xs ++ after), u.isSignificant = true :=
      List.forall_mem_cons.2 ⟨Token.isSignificant_of_terminator ht,
        List.forall_mem_append.2 ⟨fun u hu => (hxs.isSolid u hu).isSignificant, hafter⟩⟩
    have hbody : ∀ u ∈ block ++ (vs ++ t :: (xs ++ after)), u.isSignificant = true :=
      List.forall_mem_append.2 ⟨fun u hu => (hblock.isSolid u hu).isSignificant,
        List.forall_mem_append.2 ⟨hvs.isSignificant, hrest⟩⟩
    have hsigm := (isSolid_of_keyword hm (by simp)).isSignificant
    have hsigr := (isSolid_of_keyword hr (by simp)).isSignificant
    have hmethod (rest : List Token) :
        Cursor.isMethod ⟨m :: (ws.reverse ++ before), r, rest⟩ = true := by
      simp [Cursor.isMethod, Cursor.preceding?, hsigm, hm]
    have hheader := hhs.keepsDepth (d := 1) (p := none) hbody (fun _ => .inl Nat.one_pos)
      _ (opensFreely_cons (m :: (ws.reverse ++ before)) hs hsigr fun h => by simp [hr] at h)
      (by simp) true
    have hlist : ws ++ m :: r :: (hs ++ (block ++ (vs ++ t :: xs))) =
        ws ++ m :: r :: (hs ++ ((block ++ vs) ++ t :: xs)) := by simp
    rw [hlist, cursorsBetween_append, cursorsBetween_cons, cursorsBetween_cons,
      cursorsBetween_append, cursorsBetween_append, cursorsBetween_cons]
    simp only [List.cons_append, List.append_assoc]
    refine (hws.passes_words ?_).append ?_
    · exact List.forall_mem_cons.2 ⟨hsigm, List.forall_mem_cons.2 ⟨hsigr,
        List.forall_mem_append.2 ⟨hhs.isSignificant, hbody⟩⟩⟩
    refine (passes_idle (by simp [ofCursor_of_word, hm])).cons ?_
    refine (passes_routine hr (.inr (.inr (.inr ⟨Nat.one_pos, hmethod _⟩)))).cons ?_
    refine hheader.append ((passes_body hblock hvs hrest).append ?_)
    exact (passes_mark (.inl ht) (.inl Nat.one_pos)).cons (ih hafter)

theorem StartsHeader.passes_append {head hs : List Token} (hhead : StartsHeader head)
    (hhs : IsHeader hs after) (hq : NoQuotedBody hs)
    (hafter : ∀ t ∈ after, t.isSignificant = true) :
    Passes (Open d h none) (cursorsBetween before (head ++ hs) after) (Open d true none) := by
  have hrest : ∀ t ∈ hs ++ after, t.isSignificant = true :=
    List.forall_mem_append.2 ⟨fun t ht => (hhs.isSolid t ht).isSignificant, hafter⟩
  obtain ⟨pre, u, hlast, hsigu, hintro⟩ := hhead.exists_last
  have hq' : NoQuotedBody (u :: hs) := List.IsChain.cons hq fun t _ h => absurd h hintro
  rw [cursorsBetween_append]
  refine (hhead.passes (List.forall_mem_append.2
    ⟨fun t ht => (hhead.isSolid t ht).isSignificant, hrest⟩)).append ?_
  rw [hlast, List.reverse_append, List.append_assoc]
  exact hhs.passes (List.forall_mem_cons.2 ⟨hsigu, hrest⟩) hq'

/-- A statement leaves nothing open. -/
theorem IsStatement.passes (hxs : IsStatement xs after)
    (hafter : ∀ t ∈ after, t.isSignificant = true) :
    Passes (Open 0 false none) (cursorsBetween [] xs after) (Open 0 false none) := by
  have hsig {xs after : List Token} (hxs : ∀ t ∈ xs, IsSolid t)
      (hafter : ∀ t ∈ after, t.isSignificant = true) : ∀ t ∈ xs ++ after, t.isSignificant = true :=
    List.forall_mem_append.2 ⟨fun t ht => (hxs t ht).isSignificant, hafter⟩
  cases hxs with
  | line hxs =>
    exact hxs.passes rfl hafter (fun h => by simp [Shape.line] at h) (by simp [OpensFreely])
  | @routine ws head hs block vs _ hws hhead hhs hq hblock hvs =>
    have hbody := hsig hblock.isSolid (hsig hvs.isSolid hafter)
    have hlist : ws ++ (head ++ (hs ++ (block ++ vs))) = ws ++ ((head ++ hs) ++ (block ++ vs)) := by
      simp
    rw [hlist, cursorsBetween_append, cursorsBetween_append]
    simp only [List.append_assoc]
    refine (hws.passes_words (hsig hhead.isSolid (hsig hhs.isSolid hbody))).append ?_
    exact (hhead.passes_append (hhs.isHeader rfl rfl) hq hbody).append
      (passes_body hblock hvs hafter)
  | @typeBody k ms ty bd ws methods e vs _ hk hms hty hbd hws hmethods he hvs =>
    have hsolid {t : Token} {k : Keyword} (ht : t.keyword = k) (hk : k ≠ .plain) :=
      (isSolid_of_keyword ht hk).isSignificant
    have hend : ∀ t ∈ vs ++ after, t.isSignificant = true := hsig hvs.isSolid hafter
    have hclose : ∀ t ∈ e :: (vs ++ after), t.isSignificant = true :=
      List.forall_mem_cons.2 ⟨hsolid he.keyword (by simp), hend⟩
    have hbody := hsig hmethods.isSolid hclose
    have hcreates : Cursor.createsTypeBody
        ⟨[], k, ms ++ ty :: bd :: (ws ++ (methods ++ e :: (vs ++ after)))⟩ = true := by
      have hobject := object_of_modifiers [] k hms
        (List.forall_mem_append.2 ⟨fun m hm => hsolid (hms m hm) (by simp),
          List.forall_mem_cons.2 ⟨hsolid hty (by simp),
            List.forall_mem_cons.2 ⟨hsolid hbd (by simp), hsig hws.isSolid hbody⟩⟩⟩) (by simp [hty])
      simp [Cursor.createsTypeBody, hobject, hty, hbd]
    have hlist : ms ++ ty :: bd :: (ws ++ (methods ++ e :: vs)) =
        ms ++ ([ty, bd] ++ (ws ++ (methods ++ e :: vs))) := by simp
    rw [hlist, cursorsBetween_cons, cursorsBetween_append, cursorsBetween_append,
      cursorsBetween_append, cursorsBetween_append, cursorsBetween_cons]
    simp only [List.append_assoc, List.cons_append, List.nil_append]
    refine (passes_createsTypeBody hk hcreates).cons ?_
    refine (passes_words fun m hm => by simp [hms m hm]).append ?_
    have hwords : ∀ w ∈ [ty, bd],
        w.keyword ∈ [.package, .objectType, .body, .modifier, .method] := by
      simp [hty, hbd]
    refine (passes_words hwords).append ?_
    refine (hws.passes_words hbody).append ((hmethods.passes hclose).append ?_)
    exact (passes_closes (closesBlock_of_head? _ he.keyword (fun t ht => (he.rest t ht).1) hend)
      (by simp)).cons (hvs.passes_words hafter)

theorem significant_drop_trailingComments (tokens : List Token) :
    significant (tokens.drop (trailingComments tokens).length) = significant tokens := by
  have hlayout : significant (trailingComments tokens) = [] :=
    significant_eq_nil fun _ h => isSignificant_of_mem_trailingComments h
  conv_rhs => rw [← List.prefix_iff_eq_append.1 (trailingComments_isPrefix tokens)]
  rw [significant_append, hlayout, List.nil_append]

/-- The segments of a script of well-nested statements are its statements. -/
theorem significant_segments {statements : List (List Token)} {tokens : List Token}
    (h : Script (significant tokens) statements) :
    (segments tokens).1.map (significant ·.tokens) = statements := by
  generalize hxs : significant tokens = xs at h
  -- What is left behind a statement is cut as a script of its own.
  induction h generalizing tokens with
  | @last xs hstatement =>
    have hpass := hstatement.passes (by simp)
    rw [← hxs] at hpass
    obtain ⟨s, hs, -⟩ := Passes.squeeze [] _ [] hpass
      (fun t ht => (hstatement.isSolid t (hxs ▸ ht)).not_separator) {} open_empty
    have hcut := cut_of_pass? [] [] hs
    rw [List.append_nil] at hcut
    simp [segments, hcut, cut, hxs]
  | @cons xs t rest statements hstatement ht hrest ih =>
    have hsigt := Token.isSignificant_of_terminator ht
    have hafter : ∀ u ∈ t :: rest, u.isSignificant = true :=
      List.forall_mem_cons.2 ⟨hsigt, fun u hu => (hrest.isSolid u hu).isSignificant⟩
    obtain ⟨first, others, rfl, rfl, rfl, placeholders, hsegments⟩ := cutAt_of_significant hxs ht
      (fun u hu => (hstatement.isSolid u hu).not_separator)
      (fun u hu => (hrest.isSolid u (List.mem_of_mem_head? hu)).not_separator)
      (hstatement.passes hafter)
    have hcomments : significant (trailingComments others) = [] :=
      significant_eq_nil fun _ h => isSignificant_of_mem_trailingComments h
    rw [hsegments, List.map_cons, ih (significant_drop_trailingComments others)]
    simp [significant_cons, hsigt, hcomments]

theorem isBlank_text_iff_of_isSolid {script : List Char} {segment : Segment} (keepComments : Bool)
    (hs : segment ∈ (segments (tokens script)).1)
    (hsolid : ∀ t ∈ significant (tokens script), IsSolid t) :
    isBlank (segment.text keepComments) = true ↔
      (∀ t ∈ significant segment.tokens, t.kind = .terminator) ∧
        (keepComments = true → ∀ t ∈ segment.tokens, t.isComment = false) := by
  rw [isBlank_text_iff keepComments hs]
  refine and_congr_left fun _ => forall₂_congr fun t ht => or_iff_left (hsolid t ?_).not_separator
  rw [significant, List.mem_filter] at ht ⊢
  exact ⟨mem_tokens_of_mem_segment hs ht.1, ht.2⟩

/-- A script of well-nested statements is split into these statements, however deep their blocks are
nested. As many statements come out, or, where blank ones are dropped, as many as are no lone
semicolons. -/
theorem split_of_script {script : List Char} {statements : List (List Token)}
    (h : Script (significant (tokens script)) statements) :
    (segments (tokens script)).1.map (significant ·.tokens) = statements ∧
      (∀ o : Options, o.keepEmptyStatements = true ∨
          (∀ xs ∈ statements, ∃ t ∈ xs, t.kind ≠ .terminator) →
        (split o script).statements.length = statements.length) ∧
      ∀ o : Options, o.keepEmptyStatements = false → o.keepComments = false →
        (split o script).statements.length =
          statements.countP (·.any (·.kind != .terminator)) := by
  have hsegments := significant_segments h
  refine ⟨hsegments, fun o ho => ?_, fun o hempty hcomments => ?_⟩
  · rw [length_statements_split, ← hsegments, List.length_map, List.countP_eq_length]
    intro segment hs
    rcases ho with hempty | hfull
    · simp [hempty]
    · obtain ⟨t, ht, hkind⟩ := hfull (significant segment.tokens)
        (hsegments ▸ List.mem_map_of_mem hs)
      have hblank : ¬ isBlank (segment.text o.keepComments) = true := fun hblank =>
        hkind (((isBlank_text_iff_of_isSolid _ hs h.isSolid).1 hblank).1 t ht)
      simp [hblank]
  · rw [length_statements_split, ← hsegments, List.countP_map]
    refine List.countP_congr fun segment hs => ?_
    have hblank := isBlank_text_iff_of_isSolid o.keepComments hs h.isSolid
    rw [hempty, Bool.false_or, Bool.not_eq_true', Function.comp_apply, List.any_eq_true]
    simpa [hcomments] using not_congr hblank

/-- The word of a text. -/
def Token.ofWord (s : String) : Token :=
  ⟨.word, s.toList⟩

/-- The mark that ends a statement. -/
def Token.semicolon : Token :=
  ⟨.terminator, [';']⟩

theorem inert_ofWord {s : String} (hs : (Token.ofWord s).keyword ∉
    [.blockBegin, .blockEnd, .caseOpen, .create, .declare, .routine]) :
    Inert (.ofWord s) rest :=
  ⟨rfl, by simp [Token.ofWord], by simp [Token.ofWord], .inl hs⟩

open Token in
theorem split_of_script_of_declaration :
    Script (significant (tokens "DECLARE x; BEGIN CASE y; END CASE; END; z".toList))
        [significant (tokens "DECLARE x; BEGIN CASE y; END CASE; END;".toList), [ofWord "z"]] ∧
      (split {} "DECLARE x; BEGIN CASE y; END CASE; END; z".toList).statements.length = 2 := by
  have hbody : Items .body (ofWord "CASE" :: ([ofWord "y", semicolon] ++
      ofWord "END" :: ofWord "CASE" :: [semicolon])) [ofWord "END", semicolon, ofWord "z"] :=
    .caseStatement rfl (by decide +kernel)
      (.inert (inert_ofWord (by decide +kernel)) (.semicolon rfl rfl .nil)) (by decide +kernel)
      (by decide +kernel) (.semicolon rfl rfl .nil)
  have hblock : IsBlock .body (ofWord "BEGIN" :: (ofWord "CASE" :: ([ofWord "y", semicolon] ++
      ofWord "END" :: ofWord "CASE" :: [semicolon]) ++ [ofWord "END"])) [semicolon, ofWord "z"] :=
    .mk ⟨by decide +kernel, by decide +kernel⟩ hbody ⟨by decide +kernel, by decide +kernel⟩
  have hquoted : NoQuotedBody [ofWord "x", semicolon] := by
    rw [NoQuotedBody]
    decide +kernel
  have hdeclares : StartsHeader [ofWord "DECLARE"] := .declare (by decide +kernel)
  have hfirst : IsStatement ([] ++ ([ofWord "DECLARE"] ++ ([ofWord "x", semicolon] ++
      (ofWord "BEGIN" :: (ofWord "CASE" :: ([ofWord "y", semicolon] ++
        ofWord "END" :: ofWord "CASE" :: [semicolon]) ++ [ofWord "END"]) ++ []))))
      [semicolon, ofWord "z"] :=
    .routine .nil hdeclares (.inert (inert_ofWord (by decide +kernel)) (.semicolon rfl rfl .nil))
      hquoted hblock .nil
  have hlast : IsStatement [ofWord "z"] [] :=
    .line (.inert (inert_ofWord (by decide +kernel)) .nil)
  have hscript : Script (significant (tokens "DECLARE x; BEGIN CASE y; END CASE; END; z".toList))
      [significant (tokens "DECLARE x; BEGIN CASE y; END CASE; END;".toList), [ofWord "z"]] := by
    have h := Script.cons hfirst rfl (.last hlast)
    convert h using 2 <;> decide +kernel
  exact ⟨hscript, (split_of_script hscript).2.1 {} (.inr (by decide +kernel))⟩

end SqlScript
