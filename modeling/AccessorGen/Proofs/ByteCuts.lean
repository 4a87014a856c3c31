import AccessorGen.Proofs.AnnotationParsing
import AccessorGen.Proofs.PropertyNameFaults
import AccessorGen.Proofs.ScanDepth

/-! Byte offsets that are found by reading characters, and the cuts that are made there. No cut
falls inside a character or outside its text. -/
namespace AccessorGen

namespace Text

variable {n : Nat} {s before after : List Char}

/-- The text comes apart at a byte offset that lies within it and inside none of its characters. -/
structure CutsAt (n : Nat) (s before after : List Char) : Prop where
  boundary : (String.Pos.Raw.mk n).IsValid (String.ofList s)
  parts : splitAtByte? n s = some (before, after)

theorem cutsAt_iff : CutsAt n s before after ↔ s = before ++ after ∧ byteLength before = n := by
  constructor
  · intro h
    exact splitAtByte?_eq_some_iff.mp h.parts
  · intro h
    have hparts := splitAtByte?_eq_some_iff.mpr h
    exact ⟨isSome_splitAtByte?_iff.mp (Option.isSome_of_eq_some hparts), hparts⟩

end Text

namespace AnnotationUse

variable {body name s : List Char} {i n : Nat}

theorem splitArguments_of_cutsAt (hname : '(' ∉ name) (hcut : Text.CutsAt i body name ('(' :: s)) :
    splitArguments body = (name, some ('(' :: s)) := by
  rw [(Text.cutsAt_iff.mp hcut).1, splitArguments_eq, takeWhile_ne_open hname, if_pos (by simp),
    writtenArguments_append hname]

theorem offsetOf?_append (hname : '(' ∉ name) :
    Text.offsetOf? '(' (name ++ '(' :: s) = some (Text.byteLength name) := by
  rw [Text.offsetOf?, if_pos (by simp), takeWhile_ne_open hname]

/-- An offset is found where there is a parenthesis, and the first one stands behind it. -/
theorem offsetOf?_eq_some_iff : Text.offsetOf? '(' body = some i ↔
    ∃ name s, '(' ∉ name ∧ Text.CutsAt i body name ('(' :: s) := by
  constructor
  · intro h
    have hmem : '(' ∈ body := by
      by_contra hmem
      rw [Text.offsetOf?, if_neg hmem] at h
      cases h
    obtain ⟨name, s, rfl, hname⟩ := List.eq_append_cons_of_mem hmem
    rw [offsetOf?_append hname] at h
    exact ⟨name, s, hname, Text.cutsAt_iff.mpr ⟨rfl, Option.some.inj h⟩⟩
  · rintro ⟨name, s, hname, hcut⟩
    obtain ⟨rfl, rfl⟩ := Text.cutsAt_iff.mp hcut
    exact offsetOf?_append hname

/-- One past the closing parenthesis, which takes a single byte, there is a cut. -/
theorem cutsAt_closing (h : closing? ('(' :: s) = some n) :
    ∃ read rest, Text.CutsAt (n + 1) ('(' :: s) (read ++ [')']) rest ∧
      afterClosing? ('(' :: s) = some rest := by
  obtain ⟨read, rest, hs, rfl, _⟩ := closing?_eq_some_iff.mp h
  have hcut : Text.CutsAt (Text.byteLength read + 1) ('(' :: s) (read ++ [')']) rest := by
    refine Text.cutsAt_iff.mpr ⟨by rw [hs]; simp, ?_⟩
    rw [Text.byteLength_append]
    rfl
  refine ⟨read, rest, hcut, ?_⟩
  rw [afterClosing?, h, Option.bind_some, hcut.parts]
  rfl

end AnnotationUse

namespace PropertyName

variable {c : Char} {rest : List Char}

theorem cutsAt_first : Text.CutsAt c.utf8Size (c :: rest) [c] rest :=
  Text.cutsAt_iff.mpr ⟨rfl, rfl⟩

theorem decapitalize_of_cons {name : String} (h : name.toList = c :: rest) :
    decapitalize name =
      if Unicode.isUppercase c && startsUppercase rest then name
      else String.ofList (Unicode.lowercase c ++ rest) := by
  rw [decapitalize, h, decapitalizeChars, behindFirst?_cons, Option.getD_some]
  split
  · rw [← h, String.ofList_toList]
  · rfl

end PropertyName

open AnnotationUse

/-- The offsets that come from reading characters are safe to cut at. An annotation is cut at its
first parenthesis and behind the one that closes it, a name behind its first character. On the way
to the closing parenthesis the scan closes none that is not open. It ends at the first place where
none is left open, or with the text. -/
theorem cuts_between_characters :
    (∀ (text : String) (body : List Char), Text.trim text.toList = '@' :: body →
      ∀ i, Text.offsetOf? '(' body = some i ↔ ∃ name s,
        '(' ∉ name ∧ Text.CutsAt i body name ('(' :: s) ∧
          splitArguments body = (name, some ('(' :: s))) ∧
    (∀ s n, closing? ('(' :: s) = some n → ∃ read rest,
      Text.CutsAt (n + 1) ('(' :: s) (read ++ [')']) rest ∧
        afterClosing? ('(' :: s) = some rest) ∧
    (∀ (name : String) (c : Char) (rest : List Char), name.toList = c :: rest →
      Text.CutsAt c.utf8Size name.toList [c] rest ∧
      PropertyName.behindFirst? name.toList = some rest ∧
      PropertyName.decapitalize name =
        if Unicode.isUppercase c && PropertyName.startsUppercase rest then name
        else String.ofList (Unicode.lowercase c ++ rest)) ∧
    (∀ s read c rest, '(' :: s = read ++ c :: rest → Unfinished read →
      ∃ mode depth, scanned? read = some (mode, depth) ∧
        closing? ('(' :: s) = closingFrom? mode depth (Text.byteLength read) (c :: rest) ∧
        (mode = .plain → c = ')' → 1 ≤ depth) ∧ depthAfter? mode depth c ≠ none) ∧
    ∀ s, (closing? ('(' :: s) = none ↔ StaysOpen ('(' :: s)) ∧
      ∀ n, closing? ('(' :: s) = some n ↔
        ∃ read rest, '(' :: s = read ++ ')' :: rest ∧ Text.byteLength read = n ∧
          depth? (read ++ [')']) = some 0 ∧ StaysOpen read := by
  refine ⟨?_, fun s n => cutsAt_closing, ?_, ?_, ?_⟩
  · intro text body _ i
    rw [offsetOf?_eq_some_iff]
    constructor
    · rintro ⟨name, s, hname, hcut⟩
      exact ⟨name, s, hname, hcut, splitArguments_of_cutsAt hname hcut⟩
    · rintro ⟨name, s, hname, hcut, _⟩
      exact ⟨name, s, hname, hcut⟩
  · intro name c rest h
    have hname := PropertyName.decapitalize_of_cons h
    rw [h]
    exact ⟨PropertyName.cutsAt_first, PropertyName.behindFirst?_cons, hname⟩
  · intro s read c rest hread h
    exact h.exists_place hread
  · intro s
    exact ⟨closing?_eq_none_iff, fun n => closing?_eq_some_iff⟩

end AccessorGen
