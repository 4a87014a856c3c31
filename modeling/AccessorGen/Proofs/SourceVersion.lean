import AccessorGen.Json.AsText
import Mathlib.Algebra.Group.Nat.Defs
import Mathlib.Data.List.Induction

/-! How a source version can be spelled, what other texts are refused for, and that the text of a
version is read as the version it was made from. -/
namespace AccessorGen.SourceVersion

variable {s t : List Char} {text : String} {n : Nat} {v : SourceVersion}

/-- One or more decimal digits with their value. Zeros may stand in front. -/
inductive Numeral : List Char → Nat → Prop
  | digit {d : Nat} (h : d < 10) : Numeral [Nat.digitChar d] d
  | append {s : List Char} {n d : Nat} (hs : Numeral s n) (h : d < 10) :
      Numeral (s ++ [Nat.digitChar d]) (10 * n + d)

/-- A numeral, behind one plus sign or none. -/
inductive Number : List Char → Nat → Prop
  | plain {s : List Char} {n : Nat} (h : Numeral s n) : Number s n
  | signed {s : List Char} {n : Nat} (h : Numeral s n) : Number ('+' :: s) n

/-- The two ways to write a version, each with its number. -/
inductive Spelling : List Char → Nat → Prop
  | modern {s : List Char} {n : Nat} (h : Number s n) : Spelling s n
  | legacy {s : List Char} {n : Nat} (h : Number s n) : Spelling ('1' :: '.' :: s) n

theorem digitsValue_toDigits (n : Nat) : digitsValue (Nat.toDigits 10 n) = n :=
  Nat.ofDigitChars_ten_toDigits

theorem digitsValue_append (s : List Char) (c : Char) :
    digitsValue (s ++ [c]) = 10 * digitsValue s + (c.toNat - '0'.toNat) := by
  rw [digitsValue, List.foldl_append]
  rfl

theorem exists_digitChar {c : Char} (h : c.isDigit = true) :
    ∃ d < 10, c = Nat.digitChar d ∧ c.toNat - '0'.toNat = d := by
  obtain ⟨hge, hle⟩ := Char.isDigit_iff_toNat.mp h
  have hzero : '0'.toNat = 48 := rfl
  have hnine : '9'.toNat = 57 := rfl
  have hd : c.toNat - '0'.toNat < 10 := by omega
  refine ⟨_, hd, ?_, rfl⟩
  apply Char.toNat_inj.mp
  rw [Nat.toNat_digitChar_of_lt_ten hd]
  omega

theorem numeral_iff :
    Numeral s n ↔ s ≠ [] ∧ (∀ c ∈ s, c.isDigit = true) ∧ digitsValue s = n := by
  constructor
  · intro h
    induction h with
    | @digit d h =>
      have hvalue : digitsValue [Nat.digitChar d] = d := by
        simpa [digitsValue] using Nat.toNat_digitChar_sub_48_of_lt_ten h
      exact ⟨by simp, by simp [Nat.isDigit_digitChar, h], hvalue⟩
    | @append s n d _ h ih =>
      obtain ⟨_, hall, rfl⟩ := ih
      have hvalue : (Nat.digitChar d).toNat - '0'.toNat = d :=
        Nat.toNat_digitChar_sub_48_of_lt_ten h
      refine ⟨by simp, ?_, by rw [digitsValue_append, hvalue]⟩
      rw [List.forall_mem_append]
      exact ⟨hall, by simp [Nat.isDigit_digitChar, h]⟩
  · rintro ⟨hne, hall, rfl⟩
    induction s using List.reverseRecOn with
    | nil => exact absurd rfl hne
    | append_singleton s c ih =>
      obtain ⟨hs, hc⟩ := List.forall_mem_append.mp hall
      obtain ⟨d, hd, rfl, hvalue⟩ := exists_digitChar (hc c (by simp))
      by_cases hnil : s = []
      · subst hnil
        have hsingle : digitsValue [Nat.digitChar d] = d := by simpa [digitsValue] using hvalue
        rw [List.nil_append, hsingle]
        exact .digit hd
      · rw [digitsValue_append, hvalue]
        exact .append (ih hnil hs) hd

theorem number?_eq_some_iff : number? s = some n ↔ Number s n := by
  have hdigits (t : List Char) : (if !t.isEmpty && t.all Char.isDigit then some (digitsValue t)
      else none) = some n ↔ Numeral t n := by
    simp [numeral_iff, and_assoc]
  rw [number?.eq_def]
  split
  next t =>
    rw [hdigits]
    constructor
    · exact .signed
    · intro h
      cases h with
      | plain h => cases (numeral_iff.mp h).2.1 '+' List.mem_cons_self
      | signed h => exact h
  next hsign =>
    rw [hdigits]
    constructor
    · exact .plain
    · intro h
      cases h with
      | plain h => exact h
      | signed h => exact absurd rfl (hsign _)

theorem Number.dot_not_mem (h : Number s n) : '.' ∉ s := by
  have hnot (t : List Char) (ht : Numeral t n) : '.' ∉ t := by
    intro hdot
    cases (numeral_iff.mp ht).2.1 '.' hdot
  cases h with
  | plain h => exact hnot s h
  | signed h => simpa using hnot _ h

/-- The older spelling is told by its first two characters, and no other text has a dot. -/
theorem releaseText?_eq_some_iff :
    releaseText? s = some t ↔ s = '1' :: '.' :: t ∨ '.' ∉ s ∧ s = t := by
  rw [releaseText?.eq_def]
  split
  next minor => simp [eq_comm]
  next hlegacy =>
    have hnot : s ≠ '1' :: '.' :: t := hlegacy t
    by_cases hdot : '.' ∈ s <;> simp [hdot, hnot]

theorem bind_number?_eq_some_iff : (releaseText? s).bind number? = some n ↔ Spelling s n := by
  simp only [Option.bind_eq_some_iff, releaseText?_eq_some_iff, number?_eq_some_iff]
  constructor
  · rintro ⟨t, rfl | ⟨_, rfl⟩, h⟩
    · exact .legacy h
    · exact .modern h
  · intro h
    cases h with
    | modern h => exact ⟨s, .inr ⟨h.dot_not_mem, rfl⟩, h⟩
    | legacy h => exact ⟨_, .inl rfl, h⟩

theorem parse_of_spelling (h : Spelling text.toList n) : parse text =
    if h : n < UInt32.size then ofRelease n h else .error (.invalid text) := by
  rw [parse, bind_number?_eq_some_iff.mpr h]

theorem parse_of_not_spelling (h : ∀ n, ¬ Spelling text.toList n) :
    parse text = .error (.invalid text) := by
  have hnone : (releaseText? text.toList).bind number? = none := by
    rw [Option.eq_none_iff_forall_ne_some]
    exact fun n hn => h n (bind_number?_eq_some_iff.mp hn)
  rw [parse, hnone]

theorem parse_of_spelling_release (h : Spelling text.toList v.release) : parse text = .ok v := by
  simp [parse_of_spelling h, ofRelease, v.supported, v.release_lt]

theorem parse_of_old (h : Spelling text.toList n) (hn : n < 6) :
    parse text = .error (.unsupported n) := by
  have hsize : n < UInt32.size := Nat.lt_trans hn (by decide)
  rw [parse_of_spelling h, dif_pos hsize, ofRelease, dif_neg (by omega)]

theorem parse_of_large (h : ∀ n, Spelling text.toList n → 2 ^ 32 ≤ n) :
    parse text = .error (.invalid text) := by
  by_cases hn : ∃ n, Spelling text.toList n
  · obtain ⟨n, hn⟩ := hn
    have hsize : ¬ n < UInt32.size := Nat.not_lt.mpr (h n hn)
    rw [parse_of_spelling hn, dif_neg hsize]
  · exact parse_of_not_spelling (not_exists.mp hn)

/-- The number of a text, if it has one, is too old, in range or too large. -/
theorem parse_cases (text : String) :
    (∃ v : SourceVersion, Spelling text.toList v.release ∧ parse text = .ok v) ∨
    (∃ n < 6, Spelling text.toList n ∧ parse text = .error (.unsupported n)) ∨
    (∀ n, Spelling text.toList n → 2 ^ 32 ≤ n) ∧ parse text = .error (.invalid text) := by
  by_cases hlarge : ∀ n, Spelling text.toList n → 2 ^ 32 ≤ n
  · exact .inr (.inr ⟨hlarge, parse_of_large hlarge⟩)
  simp only [not_forall] at hlarge
  obtain ⟨n, h, hsize⟩ := hlarge
  by_cases hold : n < 6
  · exact .inr (.inl ⟨n, hold, h, parse_of_old h hold⟩)
  · refine .inl ⟨⟨n, Nat.le_of_not_lt hold, Nat.lt_of_not_le hsize⟩, h, ?_⟩
    exact parse_of_spelling_release h

theorem parse_eq_ok_iff : parse text = .ok v ↔ Spelling text.toList v.release := by
  constructor
  · intro hv
    rcases parse_cases text with ⟨w, hw, hparse⟩ | ⟨_, _, _, hparse⟩ | ⟨_, hparse⟩
    · cases hv.symm.trans hparse
      exact hw
    · cases hv.symm.trans hparse
    · cases hv.symm.trans hparse
  · exact parse_of_spelling_release

theorem parse_unsupported_iff :
    parse text = .error (.unsupported n) ↔ Spelling text.toList n ∧ n < 6 := by
  constructor
  · intro hn
    rcases parse_cases text with ⟨_, _, hparse⟩ | ⟨m, hm, h, hparse⟩ | ⟨_, hparse⟩
    · cases hn.symm.trans hparse
    · cases hn.symm.trans hparse
      exact ⟨h, hm⟩
    · cases hn.symm.trans hparse
  · rintro ⟨h, hn⟩
    exact parse_of_old h hn

theorem parse_invalid_iff {t : String} : parse text = .error (.invalid t) ↔
    t = text ∧ ∀ n, Spelling text.toList n → 2 ^ 32 ≤ n := by
  constructor
  · intro ht
    rcases parse_cases text with ⟨_, _, hparse⟩ | ⟨_, _, _, hparse⟩ | ⟨hlarge, hparse⟩
    · cases ht.symm.trans hparse
    · cases ht.symm.trans hparse
    · cases ht.symm.trans hparse
      exact ⟨rfl, hlarge⟩
  · rintro ⟨rfl, hlarge⟩
    exact parse_of_large hlarge

theorem numeral_toDigits (n : Nat) : Numeral (Nat.toDigits 10 n) n := by
  refine numeral_iff.mpr ⟨Nat.toDigits_ne_nil, ?_, digitsValue_toDigits n⟩
  exact fun c hc => Nat.isDigit_of_mem_toDigits (by decide) (by decide) hc

theorem number_toString (v : SourceVersion) : Number (toString v).toList v.release := by
  have htext : (toString v).toList = Nat.toDigits 10 v.release := Nat.toList_repr
  rw [htext]
  exact .plain (numeral_toDigits v.release)

theorem parse_toString (v : SourceVersion) : parse (toString v) = .ok v :=
  parse_of_spelling_release (.modern (number_toString v))

theorem parse_legacy (v : SourceVersion) : parse ("1." ++ toString v) = .ok v := by
  apply parse_of_spelling_release
  rw [String.toList_append]
  exact .legacy (number_toString v)

theorem ofJson_toJson (v : SourceVersion) : ofJson v.toJson = .ok v := by
  have hread : ofJson v.toJson = (parse (toString v)).mapError .refused := rfl
  rw [hread, parse_toString]
  rfl

/-- A text is read as a version exactly if it spells a number that is in range, however many digits
it has. A number that is too old is named; one that is too large is as good as none. -/
theorem parse_by_spelling (text : String) :
    (∀ n, (∃ v, parse text = .ok v ∧ v.release = n) ↔
      Spelling text.toList n ∧ 6 ≤ n ∧ n ≤ 2 ^ 32 - 1) ∧
    (∀ n, parse text = .error (.unsupported n) ↔ Spelling text.toList n ∧ n < 6) ∧
    (∀ t, parse text = .error (.invalid t) ↔
      t = text ∧ ∀ n, Spelling text.toList n → 2 ^ 32 ≤ n) ∧
    ∀ v : SourceVersion, parse (toString v) = .ok v ∧ parse ("1." ++ toString v) = .ok v ∧
      ofJson v.toJson = .ok v := by
  refine ⟨fun n => ?_, fun _ => parse_unsupported_iff, fun _ => parse_invalid_iff,
    fun v => ⟨parse_toString v, parse_legacy v, ofJson_toJson v⟩⟩
  constructor
  · rintro ⟨v, hv, rfl⟩
    exact ⟨parse_eq_ok_iff.mp hv, v.supported, Nat.le_sub_one_of_lt v.release_lt⟩
  · rintro ⟨h, hsupported, hsize⟩
    have hlt : n < UInt32.size := Nat.lt_of_le_sub_one (by decide) hsize
    exact ⟨⟨n, hsupported, hlt⟩, parse_eq_ok_iff.mpr h, rfl⟩

end AccessorGen.SourceVersion
