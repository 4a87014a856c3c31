import AccessorGen.Json
import AccessorGen.StringLiteral
import AccessorGen.Proofs.Delimiting

/-! Texts in quotes, in Java source and in JSON, show where they end: no escape holds a quote that
could be taken for the last one. -/
namespace AccessorGen

variable {c : Char} {s s' r r' : List Char}

namespace StringLiteral

/-- The character that the text starts with once its escape is read, and what follows. -/
def readChar : List Char → Option (Char × List Char)
  | '\\' :: 'n' :: rest => some ('\n', rest)
  | '\\' :: 'r' :: rest => some ('\r', rest)
  | '\\' :: 't' :: rest => some ('\t', rest)
  | '\\' :: c :: rest => some (c, rest)
  | c :: rest => some (c, rest)
  | [] => none

theorem readChar_escape (c : Char) (r : List Char) : readChar (escape c ++ r) = some (c, r) := by
  unfold escape
  split
  · rfl
  · rfl
  · rfl
  · rfl
  · rfl
  · next _ hslash _ _ _ =>
    have hplain : c ≠ '\\' := hslash
    simp [readChar, hplain]

theorem escape_append_ne (c : Char) (r r' : List Char) : escape c ++ r ≠ '"' :: r' := by
  intro h
  unfold escape at h
  split at h
  all_goals cases h
  next hquote _ _ _ _ => exact hquote rfl

/-- A character stands for itself, or one character stands for it behind a backslash. -/
theorem escape_cases (c : Char) : (escape c = [c] ∧ c ≠ '\\' ∧ c ≠ '"') ∨
    ∃ x ∈ ['"', '\\', 'n', 'r', 't'], escape c = ['\\', x] := by
  unfold escape
  split
  · exact .inr ⟨_, by decide, rfl⟩
  · exact .inr ⟨_, by decide, rfl⟩
  · exact .inr ⟨_, by decide, rfl⟩
  · exact .inr ⟨_, by decide, rfl⟩
  · exact .inr ⟨_, by decide, rfl⟩
  · next hquote hslash _ _ _ => exact .inl ⟨rfl, hslash, hquote⟩

theorem not_mem_encode (hc : escape c ≠ [c]) (hletter : c ∉ ['"', '\\', 'n', 'r', 't'])
    (s : List Char) : c ∉ encode s := by
  have hescape (a : Char) : c ∉ escape a := by
    intro hmem
    rcases escape_cases a with ⟨ha, _⟩ | ⟨x, hx, ha⟩
    · rw [ha, List.mem_singleton] at hmem
      subst hmem
      exact hc ha
    · rw [ha, List.mem_cons, List.mem_singleton] at hmem
      rcases hmem with rfl | rfl
      · exact hletter (by decide)
      · exact hletter hx
  have hquote : c ≠ '"' := fun h => hletter (h ▸ List.mem_cons_self)
  simp [encode, hescape, hquote]

/-- A literal stays on its line. -/
theorem newline_not_mem_encode (s : List Char) : '\n' ∉ encode s :=
  not_mem_encode (by decide) (by decide) s

theorem encode_append_inj (h : encode s ++ r = encode s' ++ r') : s = s' ∧ r = r' := by
  simp only [encode, List.cons_append, List.append_assoc, List.cons.injEq, true_and] at h
  exact Delimits.flatMap_append_inj (fun c _ => .of_read readChar_escape c) escape_append_ne h

end StringLiteral

namespace Json

def hexValue (c : Char) : Nat :=
  if c.isDigit then c.toNat - '0'.toNat else c.toNat - 'a'.toNat + 10

/-- As for literals of Java, with the escapes that JSON has. -/
def readChar : List Char → Option (Char × List Char)
  | '\\' :: 'b' :: rest => some ('\x08', rest)
  | '\\' :: 'f' :: rest => some ('\x0c', rest)
  | '\\' :: 'n' :: rest => some ('\n', rest)
  | '\\' :: 'r' :: rest => some ('\r', rest)
  | '\\' :: 't' :: rest => some ('\t', rest)
  | '\\' :: 'u' :: '0' :: '0' :: a :: b :: rest =>
    some (Char.ofNat (16 * hexValue a + hexValue b), rest)
  | '\\' :: c :: rest => some (c, rest)
  | c :: rest => some (c, rest)
  | [] => none

theorem hexValue_hexDigit {n : Nat} (h : n < 16) : hexValue (hexDigit n) = n := by
  have hall : ∀ n < 16, hexValue (hexDigit n) = n := by decide
  exact hall n h

theorem readChar_escape (c : Char) (r : List Char) : readChar (escape c ++ r) = some (c, r) := by
  unfold escape
  split
  · rfl
  · rfl
  · rfl
  · rfl
  · rfl
  · rfl
  · rfl
  · next _ hslash _ _ _ _ _ =>
    have hplain : c ≠ '\\' := hslash
    split
    · next hcontrol =>
      have hhigh : hexValue (hexDigit (c.toNat / 16)) = c.toNat / 16 :=
        hexValue_hexDigit (by omega)
      have hlow : hexValue (hexDigit (c.toNat % 16)) = c.toNat % 16 :=
        hexValue_hexDigit (by omega)
      have hvalue : 16 * (c.toNat / 16) + c.toNat % 16 = c.toNat := by omega
      simp only [List.cons_append, List.nil_append, readChar, hhigh, hlow, hvalue,
        Char.ofNat_toNat]
    · simp [readChar, hplain]

theorem escape_append_ne (c : Char) (r r' : List Char) : escape c ++ r ≠ '"' :: r' := by
  intro h
  unfold escape at h
  split at h
  all_goals try cases h
  next hquote _ _ _ _ _ _ =>
    split at h
    · cases h
    · cases h
      exact hquote rfl

theorem delimits_quote (s : String) : Delimits quote s := by
  intro s' r r' h
  simp only [quote, List.cons_append, List.append_assoc, List.cons.injEq, true_and] at h
  obtain ⟨hs, hr⟩ :=
    Delimits.flatMap_append_inj (fun c _ => .of_read readChar_escape c) escape_append_ne h
  exact ⟨String.toList_injective hs, hr⟩

end Json

end AccessorGen
