import AccessorGen.Proofs.QualifiedName

/-! Names without a fault and segments of dotted names are looked at by checks of their own.
Reserved words apart, the two let pass the same names. -/
namespace AccessorGen

namespace QualifiedName

/-- A text is read as a name without a package just if it is one segment. -/
theorem parse_eq_self_iff {s : String} : parse s = .ok ⟨"", s⟩ ↔ Segment s.toList := by
  constructor
  · intro h
    exact (wellFormed_of_parse h).simpleName
  · intro h
    have hwell : WellFormed ⟨"", s⟩ := ⟨h, .inl rfl⟩
    exact parse_toString_of_wellFormed hwell

end QualifiedName

namespace Identifier

open QualifiedName (Segment)

variable {name : String} {c : Char} {cs : List Char} {f g : Fault}

/-- What is wrong with a text that is no segment, by the first character where it shows. -/
inductive FirstFault : List Char → Fault → Prop
  | empty : FirstFault [] .empty
  | leadingDigit {c : Char} {rest : List Char} (hc : '0' ≤ c ∧ c ≤ '9') :
      FirstFault (c :: rest) .leadingDigit
  /-- Digits beyond ASCII are among these. -/
  | badStart {c : Char} {rest : List Char} (hdigit : ¬ ('0' ≤ c ∧ c ≤ '9'))
      (hc : ¬ (Unicode.isAlphabetic c ∨ c = '_' ∨ c = '$')) : FirstFault (c :: rest) .badStart
  | badPart {c d : Char} {rest : List Char} (hc : Unicode.isAlphabetic c ∨ c = '_' ∨ c = '$')
      (hmem : d ∈ rest) (hd : ¬ (Unicode.isAlphanumeric d ∨ d = '_' ∨ d = '$')) :
      FirstFault (c :: rest) .badPart

theorem isStart_iff : isStart c = true ↔ Unicode.isAlphabetic c ∨ c = '_' ∨ c = '$' := by
  simp [isStart, or_assoc]

theorem isPart_iff : isPart c = true ↔ Unicode.isAlphanumeric c ∨ c = '_' ∨ c = '$' := by
  simp [isPart, or_assoc]

theorem isDigit_iff : c.isDigit = true ↔ '0' ≤ c ∧ c ≤ '9' := by
  simp [Char.isDigit, Char.le_def]

theorem isDigit_eq_false_of_isStart (h : isStart c = true) : c.isDigit = false := by
  rcases isStart_iff.mp h with halpha | rfl | rfl
  · exact isDigit_eq_false_of_isAlphabetic halpha
  · rfl
  · rfl

theorem fault?_of_firstFault (h : FirstFault name.toList f) : fault? name = some f := by
  generalize hname : name.toList = cs at h
  cases h with
  | empty => simp [fault?, hname]
  | leadingDigit hc => simp [fault?, hname, isDigit_iff.mpr hc]
  | @badStart c rest hdigit hc =>
    have hdigit : c.isDigit = false := by simpa [← isDigit_iff] using hdigit
    have hstart : isStart c = false := by simpa [← isStart_iff] using hc
    simp [fault?, hname, hdigit, hstart]
  | @badPart c d rest hc hmem hd =>
    have hstart : isStart c = true := isStart_iff.mpr hc
    have hrest : rest.all isPart = false := by
      apply List.all_eq_false.mpr
      exact ⟨d, hmem, by simpa [isPart_iff] using hd⟩
    simp [fault?, hname, isDigit_eq_false_of_isStart hstart, hstart, hrest]

theorem fault?_of_segment (h : Segment name.toList) :
    fault? name = if name ∈ reserved then some .reserved else none := by
  obtain ⟨c, rest, hname, hc, hrest⟩ := h
  have hstart : isStart c = true := isStart_iff.mpr hc
  have hrest : rest.all isPart = true := by
    apply List.all_eq_true.mpr
    intro d hd
    exact isPart_iff.mpr (hrest d hd)
  simp [fault?, hname, isDigit_eq_false_of_isStart hstart, hstart, hrest]

theorem segment_or_firstFault (cs : List Char) : Segment cs ∨ ∃ f, FirstFault cs f := by
  cases cs with
  | nil => exact .inr ⟨_, .empty⟩
  | cons c rest =>
    by_cases hdigit : '0' ≤ c ∧ c ≤ '9'
    · exact .inr ⟨_, .leadingDigit hdigit⟩
    by_cases hc : Unicode.isAlphabetic c ∨ c = '_' ∨ c = '$'
    · by_cases hrest : ∀ d ∈ rest, Unicode.isAlphanumeric d ∨ d = '_' ∨ d = '$'
      · exact .inl ⟨c, rest, rfl, hc, hrest⟩
      · obtain ⟨d, hrest⟩ := not_forall.mp hrest
        obtain ⟨hmem, hd⟩ := Classical.not_imp.mp hrest
        exact .inr ⟨_, .badPart hc hmem hd⟩
    · exact .inr ⟨_, .badStart hdigit hc⟩

theorem FirstFault.not_segment (h : FirstFault cs f) : ¬ Segment cs := by
  rintro ⟨c, rest, rfl, hc, hrest⟩
  cases h with
  | leadingDigit hdigit =>
    have hstart := isDigit_eq_false_of_isStart (isStart_iff.mpr hc)
    rw [isDigit_iff.mpr hdigit] at hstart
    cases hstart
  | badStart _ hbad => exact hbad hc
  | badPart _ hmem hbad => exact hbad (hrest _ hmem)

theorem FirstFault.ne_reserved (h : FirstFault cs f) : f ≠ .reserved := by
  cases h <;> simp

theorem message_injective (h : f.message = g.message) : f = g := by
  cases f <;> cases g <;> first | rfl | simp [Fault.message] at h

theorem message_eq_reserved_iff : f.message = "name is a Java reserved word" ↔ f = .reserved := by
  constructor
  · intro h
    exact message_injective (g := .reserved) h
  · rintro rfl
    rfl

/-- A name is without fault just if it is one segment of a dotted name and not a reserved word. A
reserved word is the only thing that a segment can be refused for, and any other name is refused for
what shows first. -/
theorem fault?_by_segment (name : String) :
    (fault? name = none ↔ QualifiedName.parse name = .ok ⟨"", name⟩ ∧ name ∉ reserved) ∧
    (∀ f, fault? name = some f →
      (f.message = "name is a Java reserved word" ↔ QualifiedName.parse name = .ok ⟨"", name⟩)) ∧
    (QualifiedName.parse name ≠ .ok ⟨"", name⟩ → ∃ f, fault? name = some f ∧
      FirstFault name.toList f ∧ ∀ g, FirstFault name.toList g → g = f) ∧
    ∀ f g : Fault, f.message = g.message → f = g := by
  rw [ne_eq, QualifiedName.parse_eq_self_iff]
  have hunique : ∀ f g, FirstFault name.toList f → FirstFault name.toList g → g = f := by
    intro f g hf hg
    have hsame := (fault?_of_firstFault hg).symm.trans (fault?_of_firstFault hf)
    exact Option.some.inj hsame
  refine ⟨?_, ?_, ?_, fun _ _ => message_injective⟩
  · rcases segment_or_firstFault name.toList with hseg | ⟨f, hf⟩
    · simp [fault?_of_segment hseg, hseg]
    · simp [fault?_of_firstFault hf, hf.not_segment]
  · intro f hfault
    rw [message_eq_reserved_iff]
    rcases segment_or_firstFault name.toList with hseg | ⟨g, hg⟩
    · rw [fault?_of_segment hseg, Option.ite_none_right_eq_some] at hfault
      exact iff_of_true (Option.some.inj hfault.2).symm hseg
    · rw [fault?_of_firstFault hg] at hfault
      cases hfault
      exact iff_of_false hg.ne_reserved hg.not_segment
  · intro hseg
    obtain ⟨f, hf⟩ := (segment_or_firstFault name.toList).resolve_left hseg
    exact ⟨f, fault?_of_firstFault hf, hf, fun g hg => hunique f g hf hg⟩

/-- A dot joins segments and is no part of any. -/
example : QualifiedName.parse "a.b" = .ok ⟨"a", "b"⟩ ∧ fault? "a.b" = some .badPart := by decide

end Identifier

end AccessorGen
