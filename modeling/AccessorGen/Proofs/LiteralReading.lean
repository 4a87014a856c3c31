import AccessorGen.Proofs.Escapes
import Mathlib.Data.List.DropRight

/-! Literals are read back by the rules of the language, as one token. What a character of a literal
means hangs on how many backslashes stand in a row before it. -/
namespace AccessorGen.StringLiteral

variable {a c : Char} {s before after : List Char}

/-- The escapes of one character. -/
def named : List (Char × Char) := [
  ('b', '\x08'), ('s', ' '), ('t', '\t'), ('n', '\n'), ('f', '\x0c'), ('r', '\r'),
  ('"', '"'), ('\x27', '\x27'), ('\\', '\\')]

def isOctal (c : Char) : Bool := '0' ≤ c && c ≤ '7'

/-- The digits of an octal escape, which stands for at most `\377`: a third one is taken only where
the first is no more than three. -/
def octalDigits (text : List Char) : List Char :=
  let most := if text.head?.any (· ≤ '3') then 3 else 2
  (text.take most).takeWhile isOctal

/-- What the text behind a backslash stands for, and how many characters of it do. -/
def escaped? (text : List Char) : Option (Char × Nat) :=
  match text.head?.bind (named.lookup ·) with
  | some value => some (value, 1)
  | none =>
    match octalDigits text with
    | [] => none
    | digits => some (Char.ofNat (Nat.ofDigitChars 8 digits 0), digits.length)

/-- Reads the inside of a literal up to the quote that closes it. What follows the quote is left. -/
def readInside : List Char → Option (List Char × List Char)
  | [] => none
  | c :: text =>
    if c = '"' then some ([], text)
    else if c = '\n' ∨ c = '\r' then none
    else if c = '\\' then
      match escaped? text with
      | none => none
      | some (value, width) => (readInside (text.drop width)).map (Prod.map (value :: ·) id)
    else (readInside text).map (Prod.map (c :: ·) id)
termination_by text => text.length

/-- Reads a literal at the start of a text: what it denotes, and what follows it. -/
def read? : List Char → Option (List Char × List Char)
  | '"' :: text => readInside text
  | _ => none

/-- How many backslashes stand in a row at the end of a text. After an odd number of them the next
character is escaped; after an even number a backslash may begin an escape. -/
def backslashes (text : List Char) : Nat := (text.rtakeWhile (· = '\\')).length

theorem backslashes_append_backslash (s : List Char) :
    backslashes (s ++ ['\\']) = backslashes s + 1 := by
  simp [backslashes]

theorem backslashes_append_other (h : c ≠ '\\') (s : List Char) : backslashes (s ++ [c]) = 0 := by
  simp [backslashes, h]

theorem backslashes_quote_cons (s : List Char) : backslashes ('"' :: s) = backslashes s := by
  induction s using List.reverseRecOn with
  | nil => rfl
  | append_singleton s c ih =>
    rw [← List.cons_append]
    by_cases hc : c = '\\'
    · rw [hc, backslashes_append_backslash, backslashes_append_backslash, ih]
    · rw [backslashes_append_other hc, backslashes_append_other hc]

theorem even_backslashes (s : List Char) : backslashes (s.flatMap escape) % 2 = 0 := by
  induction s using List.reverseRecOn with
  | nil => rfl
  | append_singleton s a ih =>
    rw [List.flatMap_append, List.flatMap_singleton]
    rcases escape_cases a with ⟨ha, hslash, _⟩ | ⟨c, _, ha⟩
    · rw [ha, backslashes_append_other hslash]
    · rw [ha, List.append_cons]
      by_cases hc : c = '\\'
      · rw [hc, backslashes_append_backslash, backslashes_append_backslash]
        omega
      · rw [backslashes_append_other hc]

/-- Where a character of a literal stands, the closing quote among them: behind whole escapes, or
second in an escape of its own. -/
inductive Stands : List Char → Char → List Char → Prop
  | behind {c : Char} {after : List Char} (read left : List Char)
      (h : c :: after = left.flatMap escape ++ ['"']) : Stands (read.flatMap escape) c after
  | second {c a : Char} {after : List Char} (read left : List Char) (ha : escape a = ['\\', c])
      (h : after = left.flatMap escape ++ ['"']) : Stands (read.flatMap escape ++ ['\\']) c after

theorem Stands.escape_append (h : Stands before c after) (a : Char) :
    Stands (escape a ++ before) c after := by
  cases h with
  | behind read left h => exact .behind (a :: read) left h
  | second read left ha h =>
    rw [← List.append_assoc, ← List.flatMap_cons]
    exact .second (a :: read) left ha h

theorem stands_of_append (h : s.flatMap escape ++ ['"'] = before ++ c :: after) :
    Stands before c after := by
  induction s generalizing before with
  | nil =>
    cases before with
    | nil => exact .behind [] [] h.symm
    | cons b before => simp at h
  | cons a s ih =>
    cases before with
    | nil => exact .behind [] (a :: s) h.symm
    | cons b before =>
      -- Something stands before the character: the first escape, or the backslash of it.
      rw [List.flatMap_cons, List.append_assoc] at h
      rcases escape_cases a with ⟨ha, _, _⟩ | ⟨x, _, ha⟩
      · simp only [ha, List.cons_append, List.nil_append, List.cons.injEq] at h
        obtain ⟨rfl, h⟩ := h
        have hstands := (ih h).escape_append a
        rwa [ha] at hstands
      · simp only [ha, List.cons_append, List.nil_append, List.cons.injEq] at h
        obtain ⟨rfl, h⟩ := h
        cases before with
        | nil =>
          obtain ⟨rfl, rfl⟩ := List.cons.inj h
          exact .second [] s ha rfl
        | cons b before =>
          simp only [List.cons_append, List.cons.injEq] at h
          obtain ⟨rfl, h⟩ := h
          have hstands := (ih h).escape_append a
          rwa [ha] at hstands

theorem escape_append_ne_u (a : Char) (r r' : List Char) :
    escape a ++ r ≠ '\\' :: 'u' :: r' := by
  intro h
  rcases escape_cases a with ⟨ha, hslash, _⟩ | ⟨c, hc, ha⟩
  · rw [ha] at h
    exact hslash (List.cons.inj h).1
  · rw [ha] at h
    obtain ⟨_, h⟩ := List.cons.inj h
    rw [(List.cons.inj h).1] at hc
    revert hc
    decide

theorem odd_backslashes (s : List Char) : backslashes (s.flatMap escape ++ ['\\']) % 2 = 1 := by
  have heven := even_backslashes s
  rw [backslashes_append_backslash]
  omega

/-- Quotes inside are escaped, and the last one is not. -/
theorem even_backslashes_iff_last (h : s.flatMap escape ++ ['"'] = before ++ '"' :: after) :
    backslashes before % 2 = 0 ↔ after = [] := by
  cases stands_of_append h with
  | behind read left hleft =>
    have hafter : after = [] := by
      cases left with
      | nil => exact (List.cons.inj hleft).2
      | cons a left =>
        rw [List.flatMap_cons, List.append_assoc] at hleft
        exact absurd hleft.symm (escape_append_ne a _ after)
    simp [hafter, even_backslashes]
  | second read left ha hleft =>
    simp [odd_backslashes, hleft]

theorem odd_backslashes_of_u (h : s.flatMap escape ++ ['"'] = before ++ '\\' :: 'u' :: after) :
    backslashes before % 2 = 1 := by
  cases stands_of_append h with
  | behind read left hleft =>
    cases left with
    | nil => simp at hleft
    | cons a left =>
      rw [List.flatMap_cons, List.append_assoc] at hleft
      exact absurd hleft.symm (escape_append_ne_u a _ after)
  | second read left ha hleft => exact odd_backslashes read

theorem escaped?_cons (h : escape a = ['\\', c]) (text : List Char) :
    escaped? (c :: text) = some (a, 1) := by
  unfold escape at h
  split at h
  all_goals cases h
  all_goals rfl

theorem readInside_escape (a : Char) (text : List Char) :
    readInside (escape a ++ text) = (readInside text).map (Prod.map (a :: ·) id) := by
  rcases escape_cases a with ⟨ha, hslash, hquote⟩ | ⟨c, _, ha⟩
  · have hline : ¬ (a = '\n' ∨ a = '\r') := by
      rintro (rfl | rfl)
      · exact absurd ha (by decide)
      · exact absurd ha (by decide)
    rw [ha, List.singleton_append, readInside, if_neg hquote, if_neg hline, if_neg hslash]
  · have hquote : ('\\' : Char) ≠ '"' := by decide
    have hline : ¬ (('\\' : Char) = '\n' ∨ ('\\' : Char) = '\r') := by decide
    rw [ha, List.cons_append, List.singleton_append, readInside, if_neg hquote, if_neg hline,
      if_pos rfl, escaped?_cons ha]
    rfl

theorem read?_encode_append (s rest : List Char) : read? (encode s ++ rest) = some (s, rest) := by
  have hinside : readInside (s.flatMap escape ++ '"' :: rest) = some (s, rest) := by
    induction s with
    | nil => rw [List.flatMap_nil, List.nil_append, readInside, if_pos rfl]
    | cons a s ih =>
      rw [List.flatMap_cons, List.append_assoc, readInside_escape, ih]
      rfl
  rw [← hinside]
  simp [encode, read?]

/-- A text is written as one literal that denotes it. Quotes in the literal are escaped but for the
two at its ends, no line ends in it, and no backslash in it begins a Unicode escape. Whatever text
follows, the literal is read up to its end and gives back the text it was written from. -/
theorem encode_denotes (s : List Char) :
    (∃ inside, encode s = '"' :: inside ++ ['"'] ∧
      ∀ before after, inside ++ ['"'] = before ++ '"' :: after →
        (backslashes ('"' :: before) % 2 = 0 ↔ after = [])) ∧
    (∀ c ∈ encode s, c ≠ '\n' ∧ c ≠ '\r') ∧
    (∀ before after, encode s = before ++ '\\' :: 'u' :: after → backslashes before % 2 = 1) ∧
    (∀ rest, read? (encode s ++ rest) = some (s, rest)) ∧
    ∀ s', encode s = encode s' → s = s' := by
  refine ⟨⟨s.flatMap escape, rfl, ?_⟩, ?_, ?_, read?_encode_append s, ?_⟩
  · intro before after h
    rw [backslashes_quote_cons]
    exact even_backslashes_iff_last h
  · intro c hc
    constructor
    · rintro rfl
      exact newline_not_mem_encode s hc
    · rintro rfl
      exact not_mem_encode (by decide) (by decide) s hc
  · intro before after h
    cases before with
    | nil => cases h
    | cons b before =>
      simp only [encode, List.cons_append, List.cons.injEq] at h
      obtain ⟨rfl, h⟩ := h
      rw [backslashes_quote_cons]
      exact odd_backslashes_of_u h
  · intro s' h
    have hread := read?_encode_append s []
    rw [h, read?_encode_append s' []] at hread
    exact (congrArg Prod.fst (Option.some.inj hread)).symm

/-- The text spells a Unicode escape, and its literal does not. -/
example : encode "\\u0041".toList = "\"\\\\u0041\"".toList := by decide

end AccessorGen.StringLiteral
