import SqlScript.Splitter
import SqlScript.Proofs.Lexing
import SqlScript.Proofs.Roles
import Mathlib.Data.List.TakeWhile

namespace SqlScript

/-- Neither white space nor a mark between statements. -/
def isContent (c : Char) : Bool :=
  !(Text.isSpace c || c == ';' || c == '/')

def content (s : List Char) : List Char :=
  s.filter isContent

@[simp] theorem content_nil : content [] = [] := rfl

@[simp] theorem content_append (a b : List Char) : content (a ++ b) = content a ++ content b :=
  List.filter_append _ _

@[simp] theorem textOf_append (first second : List Token) :
    textOf (first ++ second) = textOf first ++ textOf second :=
  List.flatMap_append

theorem content_eq_nil_iff {s : List Char} : content s = [] ↔ isBlank s = true := by
  simp [content, isBlank, isContent, List.filter_eq_nil_iff, or_iff_not_imp_left]

theorem content_dropWhile_isSpace (s : List Char) :
    content (s.dropWhile Text.isSpace) = content s := by
  have hspace : content (s.takeWhile Text.isSpace) = [] := by
    rw [content_eq_nil_iff, isBlank, List.all_eq_true]
    intro c hc
    simp [List.mem_takeWhile_imp hc]
  calc content (s.dropWhile Text.isSpace)
      = content (s.takeWhile Text.isSpace ++ s.dropWhile Text.isSpace) := by
        rw [content_append, hspace, List.nil_append]
    _ = content s := by rw [List.takeWhile_append_dropWhile]

theorem content_reverse (s : List Char) : content s.reverse = (content s).reverse :=
  List.filter_reverse ..

theorem content_trim (s : List Char) : content (Text.trim s) = content s := by
  rw [Text.trim, content_reverse, content_dropWhile_isSpace, content_reverse, List.reverse_reverse,
    content_dropWhile_isSpace]

/-- The marks of a list of tokens, its semicolons and slashes, spell no content. -/
def MarksBare (tokens : List Token) : Prop :=
  ∀ t ∈ tokens, t.kind = .terminator ∨ t.kind = .separator → content t.text = []

theorem marksBare_tokens (script : List Char) : MarksBare (tokens script) := by
  rintro t ht (hk | hk)
  · rw [text_of_terminator ht hk]
    rfl
  · rw [text_of_separator ht hk]
    rfl

theorem content_dropSemicolon {before : List Token} (h : MarksBare before) :
    content (textOf (dropSemicolon before).reverse) = content (textOf before.reverse) := by
  induction before with
  | nil => rfl
  | cons t rest ih =>
    have hrest : MarksBare rest := fun u hu => h u (List.mem_cons_of_mem t hu)
    rw [dropSemicolon]
    split
    · next hk =>
      have ht := h t (by simp) (.inl hk)
      simp [textOf, ht]
    · split
      · rfl
      · have hi := ih hrest
        simp only [textOf] at hi
        simp [textOf, hi]

/-- Either no terminator is found, or it is the last token before some layout. -/
theorem dropTerminator_cases (tokens : List Token) :
    dropTerminator tokens = tokens ∨
      ∃ before t layout, tokens = before.reverse ++ t :: layout ∧
        Cursor.isTerminator ⟨before, t, layout⟩ = true ∧
        dropTerminator tokens =
          (if t.kind = .separator then dropSemicolon before else before).reverse ++ layout := by
  have hsplit := List.takeWhile_append_dropWhile (p := fun t => !t.isSignificant)
    (l := tokens.reverse)
  rw [dropTerminator]
  split
  · exact .inl rfl
  · next t before hd =>
    split
    · next hend =>
      refine .inr ⟨before, t, _, ?_, hend, rfl⟩
      rw [hd, ← List.reverse_eq_iff, List.reverse_append, List.reverse_cons] at hsplit
      exact hsplit.symm.trans (by simp)
    · exact .inl rfl

theorem content_dropTerminator {tokens : List Token} (h : MarksBare tokens) :
    content (textOf (dropTerminator tokens)) = content (textOf tokens) := by
  rcases dropTerminator_cases tokens with heq | ⟨before, t, layout, rfl, hend, heq⟩
  · rw [heq]
  · have ht : content t.text = [] := h t (by simp) (Cursor.kind_of_isTerminator hend).symm
    have hb : MarksBare before := fun u hu => h u (by simp [hu])
    have hcut : content (textOf (if t.kind = .separator then dropSemicolon before
        else before).reverse) = content (textOf before.reverse) := by
      split
      · exact content_dropSemicolon hb
      · rfl
    rw [heq, textOf_append, content_append, hcut, textOf_append, content_append]
    simp [textOf, ht]

theorem content_stripTerminator (s : List Char) : content (stripTerminator s) = content s := by
  rw [stripTerminator, content_dropTerminator (marksBare_tokens s), textOf_tokens]

theorem Options.content_trim (o : Options) (s : List Char) : content (o.trim s) = content s := by
  rw [Options.trim]
  split <;> split <;> simp only [SqlScript.content_trim, content_stripTerminator]

theorem Options.content_statements (o : Options) (segments : List Segment) :
    content ((o.statements segments).map (·.text)).flatten =
      content ((o.raw segments).map (·.text)).flatten := by
  rw [Options.statements]
  induction o.raw segments with
  | nil => rfl
  | cons s rest ih =>
    rw [List.filter_cons]
    split
    · rw [List.map_cons, List.map_cons, List.flatten_cons, content_append, ih, List.map_cons,
        List.flatten_cons, content_append, Statement.mapText, o.content_trim]
    · next hs =>
      have hblank : content s.text = [] := by
        rw [content_eq_nil_iff]
        simp only [Bool.or_eq_true, Bool.not_eq_true', not_or, Bool.not_eq_false] at hs
        exact hs.2
      rw [ih, List.map_cons, List.flatten_cons, content_append, hblank, List.nil_append]

theorem Options.textOf_raw (o : Options) (segments : List Segment) :
    ((o.raw segments).map (·.text)).flatten =
      textOf ((segments.flatMap (·.tokens)).filter fun t => o.keepComments || !t.isComment) := by
  induction segments with
  | nil => rfl
  | cons segment rest ih =>
    rw [List.flatMap_cons, List.filter_append, textOf_append, ← ih]
    rfl

theorem content_texts_split (o : Options) (script : List Char) :
    content (split o script).texts.flatten =
      content (textOf ((tokens script).filter fun t => o.keepComments || !t.isComment)) := by
  rw [Splitting.texts, split, o.content_statements, o.textOf_raw, tokens_segments]

theorem texts_split (o : Options) (script : List Char) :
    (split o script).texts =
      ((segments (tokens script)).1.filter fun segment =>
        o.keepEmptyStatements || !isBlank (segment.text o.keepComments)).map
          fun segment => o.trim (segment.text o.keepComments) := by
  rw [Splitting.texts, split, Options.statements, Options.raw, List.filter_map, List.map_map,
    List.map_map]
  rfl

theorem Options.statements_verbatim (segments : List Segment) :
    verbatim.statements segments = verbatim.raw segments := by
  have hkeep : (verbatim.raw segments).filter
      (fun s => verbatim.keepEmptyStatements || !s.isBlank) = verbatim.raw segments :=
    List.filter_eq_self.2 fun s _ => rfl
  rw [statements, hkeep]
  exact List.map_id _

/-- A splitter made with the verbatim options serves every script, and its statements spell the
script out again. -/
theorem flatten_texts_verbatim (script : String) :
    ∃ splitter splitting, Splitter.make (some .verbatim) [] = .ok splitter ∧
      splitter.split (.text script) = .ok splitting ∧
      splitting.texts.flatten = script.toList := by
  have hkeep : (tokens script.toList).filter
      (fun t => Options.verbatim.keepComments || !t.isComment) = tokens script.toList :=
    List.filter_eq_self.2 fun t _ => rfl
  refine ⟨⟨.verbatim⟩, split .verbatim script.toList, rfl, rfl, ?_⟩
  rw [Splitting.texts, split, Options.statements_verbatim, Options.textOf_raw, tokens_segments,
    hkeep, textOf_tokens]

end SqlScript
