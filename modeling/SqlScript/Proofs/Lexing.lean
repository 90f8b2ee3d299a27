import SqlScript.Token.Lexer
import Mathlib.Data.List.Basic

namespace SqlScript

namespace Lexer

theorem exists_next?_of_mem {previous : Option Char} {s : List Char} {t : Token}
    (h : t ∈ tokensAfter previous s) : ∃ last s' rest, next? last s' = some (t, rest) := by
  fun_induction tokensAfter previous s with
  | case1 => cases h
  | case2 previous s u rest hu ih =>
    rcases List.mem_cons.1 h with rfl | h
    · exact ⟨previous, s, rest, hu⟩
    · exact ih h

theorem text_of_next?_single {previous : Option Char} {s rest : List Char} {t : Token} {mark : Char}
    (h : next? previous s = some (t, rest))
    (hk : ∀ rule ∈ rules previous, rule.1 = t.kind → rule.2 = Scan.single? mark) :
    t.text = [mark] := by
  obtain ⟨rule, hmem, hkind, hsplit⟩ := exists_rule_of_next? h
  rw [hk rule hmem hkind, Scan.single?.eq_def] at hsplit
  split at hsplit
  · cases hsplit
  · next c tail =>
    split at hsplit
    · next hc => simp_all
    · cases hsplit

end Lexer

variable {script : List Char} {t : Token}

theorem text_ne_nil (h : t ∈ tokens script) : t.text ≠ [] := by
  obtain ⟨last, s, rest, hnext⟩ := Lexer.exists_next?_of_mem h
  exact (Lexer.text_append_of_next? hnext).2

theorem text_of_terminator (h : t ∈ tokens script) (hk : t.kind = .terminator) :
    t.text = [';'] := by
  obtain ⟨last, s, rest, hnext⟩ := Lexer.exists_next?_of_mem h
  apply Lexer.text_of_next?_single hnext
  simp [Lexer.rules, hk]

theorem text_of_separator (h : t ∈ tokens script) (hk : t.kind = .separator) :
    t.text = ['/'] := by
  obtain ⟨last, s, rest, hnext⟩ := Lexer.exists_next?_of_mem h
  apply Lexer.text_of_next?_single hnext
  simp [Lexer.rules, hk]

end SqlScript
