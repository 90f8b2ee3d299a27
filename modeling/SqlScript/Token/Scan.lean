import SqlScript.Text.CharClass

/-!
Scanners: each splits a lexeme of one shape off the start of a text. The lexeme and the rest always
make up the text again, and a lexeme is never empty.
-/

namespace SqlScript.Scan

abbrev Split := List Char × List Char

abbrev Scanner := List Char → Option Split

/-- Puts an opener in front of a lexeme. -/
def Split.opened (s : Split) (opener : List Char) : Split :=
  (opener ++ s.1, s.2)

/-- Splits after the first `stop`, or at the end of a text that has none. -/
def splitThrough (stop : List Char) : List Char → Split
  | [] => ([], [])
  | c :: rest =>
    if stop.isPrefixOf (c :: rest) then (stop, (c :: rest).drop stop.length)
    else (splitThrough stop rest).opened [c]

/-- Splits after the mark that closes a quoted text, or at the end. A doubled mark belongs to the
text, and so does a backslash with its next character where `escapes` says so. -/
def splitQuoted (mark : Char) (escapes : Bool) : List Char → Split
  | [] => ([], [])
  | [c] => ([c], [])
  | c :: d :: rest =>
    if c = mark then
      if d = mark then (splitQuoted mark escapes rest).opened [c, d] else ([c], d :: rest)
    else if escapes && c == '\\' then (splitQuoted mark escapes rest).opened [c, d]
    else (splitQuoted mark escapes (d :: rest)).opened [c]

def splitRun (p : Char → Bool) (s : List Char) : Split :=
  (s.takeWhile p, s.dropWhile p)

def lineComment? : Scanner
  | '-' :: '-' :: rest => some ((splitRun (· != '\n') rest).opened ['-', '-'])
  | _ => none

def blockComment? : Scanner
  | '/' :: '*' :: rest => some ((splitThrough ['*', '/'] rest).opened ['/', '*'])
  | _ => none

/-- The letters that may stand right before a string: national, escaped, hexadecimal, bits. -/
def isStringMarker (c : Char) : Bool :=
  ['N', 'n', 'E', 'e', 'X', 'x', 'B', 'b'].contains c

def string? : Scanner
  | '\'' :: rest => some ((splitQuoted '\'' true rest).opened ['\''])
  | c :: '\'' :: rest =>
    if isStringMarker c then some ((splitQuoted '\'' true rest).opened [c, '\'']) else none
  | _ => none

def isTagChar (c : Char) : Bool :=
  c.isAlphanum || c == '_'

/-- A string between two equal dollar marks, whose tag is empty or an ASCII name. -/
def dollarString? : Scanner
  | '$' :: rest =>
    let tag := rest.takeWhile isTagChar
    if tag.head?.any Char.isDigit then none
    else match rest.dropWhile isTagChar with
      | '$' :: body =>
        let mark := '$' :: tag ++ ['$']
        some ((splitThrough mark body).opened mark)
      | _ => none
  | _ => none

def quotedName? (mark : Char) : Scanner
  | [] => none
  | c :: rest => if c = mark then some ((splitQuoted mark false rest).opened [c]) else none

/-- After one of these characters a bracket opens a subscript, not a name. -/
def takesSubscript (c : Char) : Bool :=
  Text.isWordChar c || [']', ')', '"', '\x60', '$'].contains c

def bracketName? (previous : Option Char) : Scanner
  | '[' :: rest =>
    if previous.any takesSubscript then none else some ((splitThrough [']'] rest).opened ['['])
  | _ => none

def single? (mark : Char) : Scanner
  | [] => none
  | c :: rest => if c = mark then some ([c], rest) else none

def isWordPart (c : Char) : Bool :=
  Text.isWordChar c || c == '$' || c == '#'

theorem isWordPart_of_isWordStart {c : Char} (h : Text.isWordStart c = true) :
    isWordPart c = true := by
  rw [Text.isWordStart, Bool.and_eq_true] at h
  simp [isWordPart, h.1]

def word? : Scanner
  | [] => none
  | c :: rest => if Text.isWordStart c then some ((splitRun isWordPart rest).opened [c]) else none

/-- A point and the digits after it, if any. -/
def splitFraction : List Char → Split
  | '.' :: rest => (splitRun Char.isDigit rest).opened ['.']
  | s => ([], s)

def splitSign : List Char → Split
  | '+' :: rest => (['+'], rest)
  | '-' :: rest => (['-'], rest)
  | s => ([], s)

/-- An exponent, which is no exponent without a digit. -/
def splitExponent (s : List Char) : Split :=
  match s with
  | [] => ([], [])
  | c :: rest =>
    let sign := splitSign rest
    let digits := splitRun Char.isDigit sign.2
    if (c = 'e' ∨ c = 'E') ∧ digits.1 ≠ [] then digits.opened (c :: sign.1) else ([], s)

def number? (s : List Char) : Option Split :=
  let whole := splitRun Char.isDigit s
  let fraction := splitFraction whole.2
  let exponent := splitExponent fraction.2
  if whole.1 = [] then none else some (exponent.opened (whole.1 ++ fraction.1))

def space? : Scanner
  | [] => none
  | c :: rest => if Text.isSpace c then some ((splitRun Text.isSpace rest).opened [c]) else none

def anyChar? : Scanner
  | [] => none
  | c :: rest => some ([c], rest)

/-- The scanner splits every text that it accepts, and takes at least one character of it. -/
def Splits (scanner : Scanner) : Prop :=
  ∀ s a b, scanner s = some (a, b) → a ++ b = s ∧ a ≠ []

@[simp] theorem opened_append (s : Split) (opener : List Char) :
    (s.opened opener).1 ++ (s.opened opener).2 = opener ++ (s.1 ++ s.2) := by
  simp [Split.opened]

@[simp] theorem splitThrough_append (stop s : List Char) :
    (splitThrough stop s).1 ++ (splitThrough stop s).2 = s := by
  induction s with
  | nil => rfl
  | cons c rest ih =>
    rw [splitThrough]
    split
    · next h => exact List.prefix_iff_eq_append.1 (List.isPrefixOf_iff_prefix.1 h)
    · simp [ih]

@[simp] theorem splitQuoted_append (mark : Char) (escapes : Bool) (s : List Char) :
    (splitQuoted mark escapes s).1 ++ (splitQuoted mark escapes s).2 = s := by
  fun_induction splitQuoted mark escapes s <;> simp_all

@[simp] theorem splitRun_append (p : Char → Bool) (s : List Char) :
    (splitRun p s).1 ++ (splitRun p s).2 = s :=
  List.takeWhile_append_dropWhile

@[simp] theorem splitFraction_append (s : List Char) :
    (splitFraction s).1 ++ (splitFraction s).2 = s := by
  unfold splitFraction
  split <;> simp

@[simp] theorem splitSign_append (s : List Char) : (splitSign s).1 ++ (splitSign s).2 = s := by
  unfold splitSign
  split <;> simp

@[simp] theorem splitExponent_append (s : List Char) :
    (splitExponent s).1 ++ (splitExponent s).2 = s := by
  unfold splitExponent
  split
  · rfl
  · dsimp only
    split <;> simp

theorem splits_of_opened {s opener a b : List Char} {t : Split}
    (h : t.opened opener = (a, b)) (hs : opener ++ (t.1 ++ t.2) = s) (ho : opener ≠ []) :
    a ++ b = s ∧ a ≠ [] := by
  cases h
  exact ⟨by simp [← hs], by simp [ho]⟩

theorem lineComment?_splits : Splits lineComment? := by
  intro s a b h
  unfold lineComment? at h
  split at h
  · exact splits_of_opened (Option.some.inj h) (by simp) (by simp)
  · simp at h

theorem blockComment?_splits : Splits blockComment? := by
  intro s a b h
  unfold blockComment? at h
  split at h
  · exact splits_of_opened (Option.some.inj h) (by simp) (by simp)
  · simp at h

theorem string?_splits : Splits string? := by
  intro s a b h
  unfold string? at h
  split at h
  · exact splits_of_opened (Option.some.inj h) (by simp) (by simp)
  · split at h
    · exact splits_of_opened (Option.some.inj h) (by simp) (by simp)
    · simp at h
  · simp at h

theorem dollarString?_splits : Splits dollarString? := by
  intro s a b h
  unfold dollarString? at h
  split at h
  · next rest =>
    dsimp only at h
    split at h
    · simp at h
    · split at h
      · next body hbody =>
        refine splits_of_opened (Option.some.inj h) ?_ (by simp)
        have := List.takeWhile_append_dropWhile (p := isTagChar) (l := rest)
        simp [hbody] at this ⊢
        exact this
      · simp at h
  · simp at h

theorem quotedName?_splits (mark : Char) : Splits (quotedName? mark) := by
  intro s a b h
  unfold quotedName? at h
  split at h
  · simp at h
  · split at h
    · exact splits_of_opened (Option.some.inj h) (by simp) (by simp)
    · simp at h

theorem bracketName?_splits (previous : Option Char) : Splits (bracketName? previous) := by
  intro s a b h
  unfold bracketName? at h
  split at h
  · split at h
    · simp at h
    · exact splits_of_opened (Option.some.inj h) (by simp) (by simp)
  · simp at h

theorem single?_splits (mark : Char) : Splits (single? mark) := by
  intro s a b h
  unfold single? at h
  split at h
  · simp at h
  · split at h
    · simp at h
      obtain ⟨rfl, rfl⟩ := h
      simp
    · simp at h

theorem word?_splits : Splits word? := by
  intro s a b h
  unfold word? at h
  split at h
  · simp at h
  · split at h
    · exact splits_of_opened (Option.some.inj h) (by simp) (by simp)
    · simp at h

theorem number?_splits : Splits number? := by
  intro s a b h
  unfold number? at h
  dsimp only at h
  split at h
  · simp at h
  · next hw => exact splits_of_opened (Option.some.inj h) (by simp) (by simp [hw])

theorem space?_splits : Splits space? := by
  intro s a b h
  unfold space? at h
  split at h
  · simp at h
  · split at h
    · exact splits_of_opened (Option.some.inj h) (by simp) (by simp)
    · simp at h

theorem anyChar?_splits : Splits anyChar? := by
  intro s a b h
  unfold anyChar? at h
  split at h
  · simp at h
  · simp at h
    obtain ⟨rfl, rfl⟩ := h
    simp

end SqlScript.Scan
