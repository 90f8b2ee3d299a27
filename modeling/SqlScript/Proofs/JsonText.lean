import SqlScript.Json.Reader
import SqlScript.Json.Writer
import Mathlib.Data.List.Basic

namespace SqlScript.Json

open Scan

/-- Data without floating-point numbers. -/
inductive Exact : Json → Prop
  | null : Exact .null
  | bool (b : Bool) : Exact (.bool b)
  | int (n : Int) : Exact (.int n)
  | text (s : String) : Exact (.text s)
  | array {items : List Json} (h : ∀ item ∈ items, Exact item) : Exact (.array items)
  | object {members : List (String × Json)} (h : ∀ member ∈ members, Exact member.2) :
      Exact (.object members)

/-- A value starts with this text, and no blank and no closing bracket does. -/
def StartsValue (s : List Char) : Prop :=
  ∃ c rest, s = c :: rest ∧ c ∉ [' ', '\t', '\n', '\r', ']', '\x7d']

/-- A number in front of this text ends there. -/
def EndsNumber (s : List Char) : Prop :=
  ∀ c ∈ s.head?, c.isDigit = false ∧ c ∉ ['.', 'e', 'E']

/-- The text of a value is read back in front of anything that ends a number. -/
structure ReadsBack (json : Json) : Prop where
  starts : StartsValue json.write
  read : ∀ fuel rest, json.write.length ≤ fuel → EndsNumber rest →
    readValue? fuel (json.write ++ rest) = some (json, rest)

variable {json : Json} {items : List Json} {members : List (String × Json)} {rest : List Char}
  {fuel : Nat} {c : Char}

theorem skipBlank_of_startsValue {s : List Char} (h : StartsValue s) (rest : List Char) :
    skipBlank (s ++ rest) = s ++ rest := by
  obtain ⟨c, more, rfl, hc⟩ := h
  rw [List.cons_append, skipBlank, List.dropWhile_cons_of_neg]
  simp_all

theorem startsValue_append {s : List Char} (h : StartsValue s) (rest : List Char) :
    StartsValue (s ++ rest) := by
  obtain ⟨c, more, rfl, hc⟩ := h
  exact ⟨c, more ++ rest, rfl, hc⟩

theorem endsNumber_cons (hc : c ∈ [',', ']', '\x7d']) (rest : List Char) :
    EndsNumber (c :: rest) := by
  intro d hd
  obtain rfl : c = d := by simpa using hd
  simp only [List.mem_cons, List.not_mem_nil, or_false] at hc
  rcases hc with rfl | rfl | rfl <;> exact ⟨rfl, by simp⟩

theorem hexadecimal_of_control : ∀ n < 0x20, ∃ a b c d,
    Text.hexadecimal 4 n = [a, b, c, d] ∧ hexValues? [a, b, c, d] = some n := by
  have h : ∀ n < 0x20, (Text.hexadecimal 4 n).length = 4 ∧
      hexValues? (Text.hexadecimal 4 n) = some n := by decide +kernel
  intro n hn
  obtain ⟨hlength, hvalue⟩ := h n hn
  match hs : Text.hexadecimal 4 n, hlength with
  | [a, b, c, d], _ => exact ⟨a, b, c, d, rfl, hs ▸ hvalue⟩

theorem units?_escapeChar (c : Char) (rest : List Char) :
    units? (escapeChar c ++ rest) = (units? rest).map fun r => (c.toNat :: r.1, r.2) := by
  have hbind (u : Nat) : ((units? rest).bind fun r => some (u :: r.1, r.2)) =
      (units? rest).map fun r => (u :: r.1, r.2) := by
    cases units? rest <;> rfl
  rw [escapeChar]
  cases hletter : letterEscapes.lookup c with
  | some letter =>
    obtain ⟨front, back, heq, -⟩ := List.lookup_eq_some_iff.1 hletter
    have hmem : (c, letter) ∈ letterEscapes := by simp [heq]
    simp only [letterEscapes, List.mem_cons, List.not_mem_nil, or_false, Prod.mk.injEq] at hmem
    rcases hmem with ⟨rfl, rfl⟩ | ⟨rfl, rfl⟩ | ⟨rfl, rfl⟩ | ⟨rfl, rfl⟩ | ⟨rfl, rfl⟩ | ⟨rfl, rfl⟩ |
      ⟨rfl, rfl⟩ <;> simp [units?, letterEscape?, hbind]
  | none =>
    have hc : c ≠ '"' ∧ c ≠ '\\' := by
      constructor <;> rintro rfl <;> exact absurd hletter (by decide)
    dsimp only
    split
    · next hcontrol =>
      obtain ⟨x, y, z, w, hdigits, hvalue⟩ := hexadecimal_of_control _ hcontrol
      simp [hdigits, units?, hvalue, hbind]
    · next hcontrol =>
      simp [units?, hc.1, hc.2, hcontrol, hbind]

theorem units?_flatMap (s rest : List Char) :
    units? (s.flatMap escapeChar ++ '"' :: rest) = some (s.map Char.toNat, rest) := by
  induction s with
  | nil => rfl
  | cons c s ih => rw [List.flatMap_cons, List.append_assoc, units?_escapeChar, ih]; rfl

theorem ofUnits?_map_toNat (s : List Char) : ofUnits? (s.map Char.toNat) = some s := by
  have hvalid (c : Char) : c.toNat.isValidChar := c.valid
  induction s with
  | nil => rfl
  | cons c s ih =>
    cases s with
    | nil =>
      rw [List.map_singleton, ofUnits?, if_pos (hvalid c), Char.ofNat_toNat]
    | cons d s =>
      have hsurrogate : ¬ (0xD800 ≤ c.toNat ∧ c.toNat < 0xDC00 ∧ 0xDC00 ≤ d.toNat ∧
          d.toNat < 0xE000) := by
        have := hvalid c
        rw [Nat.isValidChar] at this
        omega
      rw [List.map_cons, List.map_cons, ofUnits?, if_neg hsurrogate, if_pos (hvalid c),
        ← List.map_cons, ih, Char.ofNat_toNat]
      rfl

theorem readText?_flatMap (s : String) (rest : List Char) :
    readText? (s.toList.flatMap escapeChar ++ '"' :: rest) = some (s, rest) := by
  rw [readText?, units?_flatMap]
  simp [ofUnits?_map_toNat]

theorem head?_toDigits {n : Nat} (hn : 0 < n) : (Nat.toDigits 10 n).head? ≠ some '0' := by
  induction n using Nat.strongRecOn with
  | ind n ih =>
    rw [Nat.toDigits_eq_if (by decide)]
    split
    · next hlt =>
      have hdigits : ∀ d < 10, 0 < d → d.digitChar ≠ '0' := by decide
      simpa using hdigits n hlt hn
    · next hge =>
      rw [List.head?_append_of_ne_nil _ Nat.toDigits_ne_nil]
      exact ih (n / 10) (by omega) (by omega)

theorem splitRun_append_of_endsNumber {ds : List Char} (hds : ∀ c ∈ ds, c.isDigit = true)
    (hrest : EndsNumber rest) : splitRun Char.isDigit (ds ++ rest) = (ds, rest) := by
  rw [splitRun, List.takeWhile_append_of_pos hds, List.dropWhile_append_of_pos hds]
  cases rest with
  | nil => simp
  | cons c rest => simp [(hrest c rfl).1]

theorem splitFraction_of_endsNumber (hrest : EndsNumber rest) :
    splitFraction rest = ([], rest) := by
  unfold splitFraction
  split
  · exact absurd (hrest '.' rfl).2 (by simp)
  · rfl

theorem splitExponent_of_endsNumber (hrest : EndsNumber rest) :
    splitExponent rest = ([], rest) := by
  cases rest with
  | nil => rfl
  | cons c rest =>
    have hc := (hrest c rfl).2
    simp only [List.mem_cons, List.not_mem_nil, or_false, not_or] at hc
    rw [splitExponent]
    simp [hc.2.1, hc.2.2]

theorem readMagnitude?_digits (negative : Bool) (n : Nat) (hrest : EndsNumber rest) :
    readMagnitude? negative (Decimal.digits n ++ rest) =
      some (.int (if negative then -n else n), rest) := by
  have hdigit : ∀ c ∈ Decimal.digits n, c.isDigit = true :=
    fun c hc => Nat.isDigit_of_mem_toDigits (by decide) (by decide) hc
  have hne : Decimal.digits n ≠ [] := Nat.toDigits_ne_nil
  have hwhole : splitRun Char.isDigit (Decimal.digits n ++ rest) = (Decimal.digits n, rest) :=
    splitRun_append_of_endsNumber hdigit hrest
  have hzero : ¬ ((Decimal.digits n).head? = some '0' ∧ (Decimal.digits n).length > 1) := by
    rintro ⟨hhead, hlength⟩
    rcases Nat.eq_zero_or_pos n with rfl | hn
    · exact absurd hlength (by decide)
    · exact head?_toDigits hn hhead
  have hvalue : Decimal.ofDigits (Decimal.digits n) = n :=
    Nat.ofDigitChars_toDigits (by decide) (by decide)
  simp [readMagnitude?, hwhole, splitFraction_of_endsNumber hrest,
    splitExponent_of_endsNumber hrest, hne, hzero, hvalue]

theorem exists_digits_eq_cons (n : Nat) :
    ∃ c ds, Decimal.digits n = c :: ds ∧ c.isDigit = true := by
  obtain ⟨c, ds, heq⟩ := List.exists_cons_of_ne_nil (Nat.toDigits_ne_nil (n := n) (b := 10))
  refine ⟨c, ds, heq, Nat.isDigit_of_mem_toDigits (b := 10) (n := n) (by decide) (by decide) ?_⟩
  simp [heq]

theorem exists_integer_eq_cons (n : Int) :
    ∃ c ds, Decimal.integer n = c :: ds ∧ (c = '-' ∨ c.isDigit = true) := by
  rw [Decimal.integer, Decimal.signed]
  split
  · exact ⟨_, _, rfl, .inl rfl⟩
  · obtain ⟨c, ds, heq, hc⟩ := exists_digits_eq_cons n.natAbs
    exact ⟨c, ds, heq, .inr hc⟩

theorem readNumber?_integer (n : Int) (hrest : EndsNumber rest) :
    readNumber? (Decimal.integer n ++ rest) = some (.int n, rest) := by
  rw [Decimal.integer, Decimal.signed]
  split
  · next hn =>
    have hn : n < 0 := by simpa using hn
    have hvalue : -(n.natAbs : Int) = n := by omega
    rw [List.cons_append, readNumber?, readMagnitude?_digits true _ hrest, if_pos rfl, hvalue]
  · next hn =>
    have hn : ¬ n < 0 := by simpa using hn
    have hvalue : (n.natAbs : Int) = n := by omega
    rw [readNumber?.eq_def]
    split
    · next heq =>
      obtain ⟨c, ds, hds, hc⟩ := exists_digits_eq_cons n.natAbs
      rw [hds, List.cons_append] at heq
      obtain ⟨rfl, -⟩ := List.cons.inj heq
      cases hc
    · rw [readMagnitude?_digits false _ hrest, if_neg (by simp), hvalue]

theorem readsBack_of_succ (hstarts : StartsValue json.write)
    (h : ∀ fuel rest, json.write.length ≤ fuel + 1 → EndsNumber rest →
      readValue? (fuel + 1) (json.write ++ rest) = some (json, rest)) : ReadsBack json := by
  refine ⟨hstarts, fun fuel rest hfuel hrest => ?_⟩
  cases fuel with
  | zero =>
    obtain ⟨c, more, heq, -⟩ := hstarts
    simp [heq] at hfuel
  | succ fuel => exact h fuel rest hfuel hrest

theorem readsBack_null : ReadsBack .null :=
  readsBack_of_succ ⟨'n', ['u', 'l', 'l'], rfl, by decide⟩ fun _ _ _ _ => rfl

theorem readsBack_bool (b : Bool) : ReadsBack (.bool b) := by
  cases b with
  | true => exact readsBack_of_succ ⟨'t', ['r', 'u', 'e'], rfl, by decide⟩ fun _ _ _ _ => rfl
  | false => exact readsBack_of_succ ⟨'f', ['a', 'l', 's', 'e'], rfl, by decide⟩ fun _ _ _ _ => rfl

theorem readsBack_int (n : Int) : ReadsBack (.int n) := by
  obtain ⟨c, ds, heq, hc⟩ := exists_integer_eq_cons n
  have hfirst : c ∉ ['n', 't', 'f', '"', '[', '\x7b', ' ', '\t', '\n', '\r', ']', '\x7d'] := by
    intro hmem
    rcases hc with rfl | hc
    · simp at hmem
    · simp only [List.mem_cons, List.not_mem_nil, or_false] at hmem
      rcases hmem with rfl | rfl | rfl | rfl | rfl | rfl | rfl | rfl | rfl | rfl | rfl | rfl <;>
        cases hc
  have hstarts : StartsValue (Json.int n).write :=
    ⟨c, ds, by rw [write, heq], fun hmem => hfirst (by simp_all)⟩
  refine readsBack_of_succ hstarts fun fuel rest _ hrest => ?_
  have hread := readNumber?_integer n hrest
  rw [heq, List.cons_append] at hread
  rw [readValue?, skipBlank_of_startsValue hstarts, write, heq, List.cons_append]
  simp only [List.mem_cons, List.not_mem_nil, or_false, not_or] at hfirst
  split <;> simp_all

theorem readsBack_text (s : String) : ReadsBack (.text s) := by
  refine readsBack_of_succ ⟨'"', _, rfl, by decide⟩ fun fuel rest _ _ => ?_
  have hread := readText?_flatMap s rest
  rw [readValue?]
  simp [write, writeText, skipBlank, hread]

theorem writeItems_cons_cons (item next : Json) (items : List Json) :
    writeItems (item :: next :: items) = item.write ++ ',' :: writeItems (next :: items) := by
  rw [writeItems]
  simp

theorem startsValue_writeItems (hne : items ≠ []) (h : ∀ item ∈ items, ReadsBack item) :
    StartsValue (writeItems items) := by
  match items with
  | [] => exact absurd rfl hne
  | [item] => exact (h item (by simp)).starts
  | item :: next :: items =>
    rw [writeItems_cons_cons]
    exact startsValue_append (h item (by simp)).starts _

theorem readItems?_writeItems (hne : items ≠ []) (h : ∀ item ∈ items, ReadsBack item)
    (hfuel : (writeItems items).length < fuel) :
    readItems? fuel (writeItems items ++ ']' :: rest) = some (items, rest) := by
  induction items generalizing fuel with
  | nil => exact absurd rfl hne
  | cons item items ih =>
    obtain ⟨fuel, rfl⟩ : ∃ n, fuel = n + 1 := ⟨fuel - 1, by omega⟩
    have hitem := h item (by simp)
    cases items with
    | nil =>
      rw [writeItems] at hfuel ⊢
      rw [readItems?, hitem.read fuel _ (by omega) (endsNumber_cons (by simp) _)]
      simp [skipBlank]
    | cons next items =>
      rw [writeItems_cons_cons] at hfuel ⊢
      simp only [List.length_append, List.length_cons] at hfuel
      have hrest : readItems? fuel (writeItems (next :: items) ++ ']' :: rest) =
          some (next :: items, rest) :=
        ih (by simp) (fun item hmem => h item (by simp [hmem])) (by omega)
      rw [List.append_assoc, List.cons_append, readItems?,
        hitem.read fuel _ (by omega) (endsNumber_cons (by simp) _)]
      simp [skipBlank, hrest]

theorem readsBack_array (h : ∀ item ∈ items, ReadsBack item) : ReadsBack (.array items) := by
  refine readsBack_of_succ ⟨'[', _, by rw [write]; rfl, by decide⟩ fun fuel rest hfuel _ => ?_
  rw [write] at hfuel ⊢
  simp only [List.length_append, List.length_cons, List.length_nil] at hfuel
  by_cases hne : items = []
  · subst hne
    simp [readValue?, writeItems, skipBlank]
  · have hread : readItems? fuel (writeItems items ++ ']' :: rest) = some (items, rest) :=
      readItems?_writeItems hne h (by omega)
    have hstarts := startsValue_writeItems hne h
    have hblank := skipBlank_of_startsValue hstarts (']' :: rest)
    obtain ⟨c, more, heq, hc⟩ := hstarts
    have hbracket : c ≠ ']' := by rintro rfl; simp at hc
    rw [heq] at hread hblank ⊢
    simp only [List.cons_append, List.append_assoc, List.nil_append] at hread hblank ⊢
    rw [readValue?, skipBlank, List.dropWhile_cons_of_neg (by decide)]
    simp [hblank, hbracket, hread]

theorem writeMembers_singleton (member : String × Json) :
    writeMembers [member] = writeText member.1.toList ++ ':' :: member.2.write := by
  rw [writeMembers]

theorem writeMembers_cons_cons (member next : String × Json) (members : List (String × Json)) :
    writeMembers (member :: next :: members) =
      writeMembers [member] ++ ',' :: writeMembers (next :: members) := by
  simp [writeMembers]

theorem readMembers?_writeMembers (hne : members ≠ [])
    (h : ∀ member ∈ members, ReadsBack member.2)
    (hfuel : (writeMembers members).length < fuel) :
    readMembers? fuel (writeMembers members ++ '\x7d' :: rest) = some (members, rest) := by
  induction members generalizing fuel with
  | nil => exact absurd rfl hne
  | cons member members ih =>
    obtain ⟨fuel, rfl⟩ : ∃ n, fuel = n + 1 := ⟨fuel - 1, by omega⟩
    have hitem := h member (by simp)
    cases members with
    | nil =>
      rw [writeMembers_singleton] at hfuel ⊢
      rw [List.length_append, List.length_cons] at hfuel
      have hread := hitem.read fuel ('\x7d' :: rest) (by omega) (endsNumber_cons (by simp) _)
      simp [writeText, readMembers?, skipBlank, readText?_flatMap, hread]
    | cons next members =>
      rw [writeMembers_cons_cons, writeMembers_singleton] at hfuel ⊢
      simp only [List.length_append, List.length_cons] at hfuel
      have hread := hitem.read fuel (',' :: (writeMembers (next :: members) ++ '\x7d' :: rest))
        (by omega) (endsNumber_cons (by simp) _)
      have hrest : readMembers? fuel (writeMembers (next :: members) ++ '\x7d' :: rest) =
          some (next :: members, rest) :=
        ih (by simp) (fun member hmem => h member (by simp [hmem])) (by omega)
      simp [writeText, readMembers?, skipBlank, readText?_flatMap, hread, hrest]

theorem readsBack_object (h : ∀ member ∈ members, ReadsBack member.2) :
    ReadsBack (.object members) := by
  refine readsBack_of_succ ⟨'\x7b', _, by rw [write]; rfl, by decide⟩ fun fuel rest hfuel _ => ?_
  rw [write] at hfuel ⊢
  simp only [List.length_append, List.length_cons, List.length_nil] at hfuel
  match members with
  | [] => simp [readValue?, writeMembers, skipBlank]
  | member :: members =>
    have hread : readMembers? fuel (writeMembers (member :: members) ++ '\x7d' :: rest) =
        some (member :: members, rest) :=
      readMembers?_writeMembers (by simp) h (by omega)
    obtain ⟨more, heq⟩ : ∃ more, writeMembers (member :: members) = '"' :: more := by
      cases members <;> exact ⟨_, by rw [writeMembers.eq_def]; rfl⟩
    rw [heq] at hread ⊢
    simp only [List.cons_append, List.append_assoc, List.nil_append] at hread ⊢
    rw [readValue?, skipBlank, List.dropWhile_cons_of_neg (by decide)]
    simp [skipBlank, hread]

/-- Written data is read back in full, whatever follows that does not prolong a number. -/
theorem Exact.readsBack (h : Exact json) : ReadsBack json := by
  induction h with
  | null => exact readsBack_null
  | bool b => exact readsBack_bool b
  | int n => exact readsBack_int n
  | text s => exact readsBack_text s
  | array _ ih => exact readsBack_array ih
  | object _ ih => exact readsBack_object ih

/-- Reading undoes writing. -/
theorem read?_write (h : Exact json) : read? json.write = some json := by
  have hread := h.readsBack.read (json.write.length + 1) [] (by omega) (by intro c hc; cases hc)
  rw [List.append_nil] at hread
  rw [read?, hread]
  rfl

theorem le_of_mem_escapeChar {d : Char} (h : d ∈ escapeChar c) : 0x20 ≤ d.toNat := by
  rw [escapeChar] at h
  cases hletter : letterEscapes.lookup c with
  | some letter =>
    have hletters : ∀ p ∈ letterEscapes, 0x20 ≤ p.2.toNat := by decide
    obtain ⟨front, back, heq, -⟩ := List.lookup_eq_some_iff.1 hletter
    rw [hletter] at h
    rcases List.mem_pair.1 h with rfl | rfl
    · decide
    · exact hletters (c, d) (by simp [heq])
  | none =>
    have hhexadecimal : (List.range 0x20).all (fun n =>
        (Text.hexadecimal 4 n).all fun d => 0x20 ≤ d.toNat) = true := by decide +kernel
    simp only [List.all_eq_true, List.mem_range, decide_eq_true_eq] at hhexadecimal
    simp only [hletter] at h
    split at h
    · next hcontrol =>
      rcases List.mem_append.1 h with h | h
      · rcases List.mem_pair.1 h with rfl | rfl <;> decide
      · exact hhexadecimal _ hcontrol d h
    · next hcontrol =>
      obtain rfl := List.mem_singleton.1 h
      omega

theorem le_of_mem_writeText {s : List Char} (h : c ∈ writeText s) : 0x20 ≤ c.toNat := by
  simp only [writeText, List.cons_append, List.mem_cons, List.mem_append, List.mem_flatMap,
    List.not_mem_nil, or_false] at h
  rcases h with rfl | ⟨d, -, hd⟩ | rfl
  · decide
  · exact le_of_mem_escapeChar hd
  · decide

theorem le_of_mem_integer {n : Int} (h : c ∈ Decimal.integer n) : 0x20 ≤ c.toNat := by
  have hdigit (hc : c ∈ Decimal.digits n.natAbs) : 0x20 ≤ c.toNat := by
    have hc := Nat.isDigit_of_mem_toDigits (by decide) (by decide) hc
    simp only [Char.isDigit, Bool.and_eq_true, decide_eq_true_eq] at hc
    exact Nat.le_trans (by decide) (UInt32.le_iff_toNat_le.1 hc.1)
  rw [Decimal.integer, Decimal.signed] at h
  split at h
  · rcases List.mem_cons.1 h with rfl | h
    · decide
    · exact hdigit h
  · exact hdigit h

theorem le_of_mem_writeItems (hitems : ∀ item ∈ items, ∀ c ∈ item.write, 0x20 ≤ c.toNat)
    (h : c ∈ writeItems items) : 0x20 ≤ c.toNat := by
  induction items with
  | nil => simp [writeItems] at h
  | cons item items ih =>
    cases items with
    | nil => exact hitems item (by simp) c (by rwa [writeItems] at h)
    | cons next items =>
      rw [writeItems_cons_cons] at h
      rcases List.mem_append.1 h with h | h
      · exact hitems item (by simp) c h
      · rcases List.mem_cons.1 h with rfl | h
        · decide
        · exact ih (fun item hmem => hitems item (by simp [hmem])) h

theorem le_of_mem_writeMembers
    (hmembers : ∀ member ∈ members, ∀ c ∈ member.2.write, 0x20 ≤ c.toNat)
    (h : c ∈ writeMembers members) : 0x20 ≤ c.toNat := by
  have hmember (member : String × Json) (hmem : member ∈ members)
      (h : c ∈ writeMembers [member]) : 0x20 ≤ c.toNat := by
    rw [writeMembers_singleton] at h
    rcases List.mem_append.1 h with h | h
    · exact le_of_mem_writeText h
    · rcases List.mem_cons.1 h with rfl | h
      · decide
      · exact hmembers member hmem c h
  induction members with
  | nil => simp [writeMembers] at h
  | cons member members ih =>
    cases members with
    | nil => exact hmember member (by simp) h
    | cons next members =>
      rw [writeMembers_cons_cons] at h
      rcases List.mem_append.1 h with h | h
      · exact hmember member (by simp) h
      · rcases List.mem_cons.1 h with rfl | h
        · decide
        · exact ih (fun member hmem => hmembers member (by simp [hmem])) h
            (fun member hmem => hmember member (by simp [hmem]))

/-- Written data is one line, without controls. -/
theorem Exact.le_of_mem_write (h : Exact json) : ∀ c ∈ json.write, 0x20 ≤ c.toNat := by
  induction h with
  | null => simp [write]
  | bool b => cases b <;> simp [write]
  | int n => exact fun c hc => le_of_mem_integer (by rwa [write] at hc)
  | text s => exact fun c hc => le_of_mem_writeText (by rwa [write] at hc)
  | array _ ih =>
    intro c hc
    rw [write, List.cons_append, List.mem_cons, List.mem_append, List.mem_singleton] at hc
    rcases hc with rfl | hc | rfl
    · decide
    · exact le_of_mem_writeItems ih hc
    · decide
  | object _ ih =>
    intro c hc
    rw [write, List.cons_append, List.mem_cons, List.mem_append, List.mem_singleton] at hc
    rcases hc with rfl | hc | rfl
    · decide
    · exact le_of_mem_writeMembers ih hc
    · decide

end SqlScript.Json
