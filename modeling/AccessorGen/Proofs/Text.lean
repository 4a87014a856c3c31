import AccessorGen.Text
import Mathlib.Data.List.DropRight

/-! Facts about trimmed text, about pieces between separators, and about cuts at byte offsets. -/
namespace AccessorGen.Text

variable {s t : List Char} {c sep : Char}

theorem trimEnd_eq_rdropWhile (s : List Char) : trimEnd s = s.rdropWhile Unicode.isBlank := rfl

/-- Only blanks are trimmed away entirely. -/
theorem trim_eq_nil_iff : trim s = [] ↔ ∀ c ∈ s, Unicode.isBlank c = true := by
  rw [trim, trimEnd_eq_rdropWhile, List.rdropWhile_eq_nil_iff]
  constructor
  · intro h c hc
    rw [← List.takeWhile_append_dropWhile (p := Unicode.isBlank) (l := s)] at hc
    rcases List.mem_append.mp hc with hc | hc
    · exact List.mem_takeWhile_imp hc
    · exact h c hc
  · intro h c hc
    exact h c ((List.dropWhile_sublist _).subset hc)

theorem trimEnd_eq_self (h : ∀ c ∈ s.getLast?, Unicode.isBlank c = false) : trimEnd s = s := by
  rw [trimEnd_eq_rdropWhile, List.rdropWhile_eq_self_iff]
  intro hs
  simp [h _ (List.getLast?_eq_some_getLast hs)]

/-- Text with no blank at either end is its own trimmed form. -/
theorem trim_eq_self (hfirst : ∀ c ∈ s.head?, Unicode.isBlank c = false)
    (hlast : ∀ c ∈ s.getLast?, Unicode.isBlank c = false) : trim s = s := by
  have hdrop : s.dropWhile Unicode.isBlank = s := by
    cases s with
    | nil => rfl
    | cons c s => simp [hfirst c rfl]
  rw [trim, hdrop, trimEnd_eq_self hlast]

theorem getLast?_trim (h : c ∈ (trim s).getLast?) : Unicode.isBlank c = false := by
  rw [trim, trimEnd_eq_rdropWhile] at h
  have hne : (s.dropWhile Unicode.isBlank).rdropWhile Unicode.isBlank ≠ [] := by
    intro he
    simp [he] at h
  have hlast := List.rdropWhile_last_not Unicode.isBlank _ hne
  rw [List.getLast?_eq_some_getLast hne] at h
  cases h
  simpa using hlast

theorem head?_trim (h : c ∈ (trim s).head?) : Unicode.isBlank c = false := by
  have hfirst := List.head?_dropWhile_not Unicode.isBlank s
  obtain ⟨rest, hrest⟩ := List.rdropWhile_prefix Unicode.isBlank (s.dropWhile Unicode.isBlank)
  rw [← trimEnd_eq_rdropWhile] at hrest
  rw [← hrest, List.head?_append, show (trimEnd _).head? = some c from h] at hfirst
  exact hfirst

theorem trim_trim (s : List Char) : trim (trim s) = trim s :=
  trim_eq_self (fun _ => head?_trim) (fun _ => getLast?_trim)

/-- What is left at the end of a trimmed text keeps a character when it is trimmed by itself. -/
theorem trim_ne_nil_of_append {r : List Char} (h : trim s = t ++ r) (hr : r ≠ []) :
    trim r ≠ [] := by
  intro hnil
  have hlast : r.getLast hr ∈ (trim s).getLast? := by
    rw [h, List.getLast?_append, List.getLast?_eq_some_getLast hr]
    rfl
  have hblank := trim_eq_nil_iff.mp hnil _ (List.getLast_mem hr)
  rw [getLast?_trim hlast] at hblank
  cases hblank

@[simp] theorem byteLength_nil : byteLength [] = 0 := rfl

@[simp] theorem byteLength_cons : byteLength (c :: s) = c.utf8Size + byteLength s := rfl

@[simp] theorem byteLength_append : byteLength (s ++ t) = byteLength s + byteLength t := by
  induction s with
  | nil => simp
  | cons c s ih => rw [List.cons_append, byteLength_cons, byteLength_cons, ih, Nat.add_assoc]

/-- A cut at the end of a prefix gives back that prefix, however wide its characters are. -/
theorem splitAtByte?_byteLength (s t : List Char) :
    splitAtByte? (byteLength s) (s ++ t) = some (s, t) := by
  induction s with
  | nil => cases t <;> rfl
  | cons c s ih =>
    obtain ⟨n, hn⟩ := Nat.exists_eq_add_of_lt c.utf8Size_pos
    have hpos : byteLength (c :: s) = n + byteLength s + 1 := by
      rw [byteLength_cons]
      omega
    have hrest : n + byteLength s + 1 - c.utf8Size = byteLength s := by omega
    rw [hpos, List.cons_append, splitAtByte?, if_pos (by omega), hrest, ih]
    rfl

theorem splitAtByte?_eq_some_iff {n : Nat} {before after : List Char} :
    splitAtByte? n s = some (before, after) ↔ s = before ++ after ∧ byteLength before = n := by
  constructor
  · intro h
    fun_induction splitAtByte? n s generalizing before with
    | case1 s =>
      cases h
      exact ⟨rfl, rfl⟩
    | case2 n => cases h
    | case3 n c s hle ih =>
      obtain ⟨⟨front, rest⟩, hcut, heq⟩ := Option.map_eq_some_iff.mp h
      cases heq
      obtain ⟨rfl, hlen⟩ := ih hcut
      exact ⟨rfl, by rw [byteLength_cons]; omega⟩
    | case4 n c s hle => cases h
  · rintro ⟨rfl, rfl⟩
    exact splitAtByte?_byteLength before after

theorem byteLength_eq_utf8ByteSize (s : List Char) :
    byteLength s = (String.ofList s).utf8ByteSize := by
  induction s with
  | nil => rfl
  | cons c s ih =>
    rw [byteLength_cons, ih, String.ofList_cons, String.utf8ByteSize_append,
      String.utf8ByteSize_singleton]

/-- A cut is refused exactly where it would break a character or lie outside the text. -/
theorem isSome_splitAtByte?_iff {n : Nat} :
    (splitAtByte? n s).isSome ↔ (String.Pos.Raw.mk n).IsValid (String.ofList s) := by
  rw [String.Pos.Raw.isValid_ofList, Option.isSome_iff_exists]
  constructor
  · rintro ⟨⟨before, after⟩, hcut⟩
    obtain ⟨rfl, hlen⟩ := splitAtByte?_eq_some_iff.mp hcut
    refine ⟨before.length, ?_⟩
    rw [List.take_left, ← byteLength_eq_utf8ByteSize]
    exact hlen.symm
  · rintro ⟨i, hi⟩
    rw [← byteLength_eq_utf8ByteSize] at hi
    exact ⟨(s.take i, s.drop i), splitAtByte?_eq_some_iff.mpr ⟨by simp, hi.symm⟩⟩

theorem segments_eq_splitOn (sep : Char) (s : List Char) : segments sep s = s.splitOn sep := by
  induction s with
  | nil => simp [segments]
  | cons c s ih =>
    rw [List.splitOn_cons_eq_if_modifyHead, ← ih, segments]
    cases hs : segments sep s with
    | nil =>
      rw [hs] at ih
      exact absurd ih.symm (List.splitOn_ne_nil sep s)
    | cons piece pieces => simp

theorem segments_ne_nil : segments sep s ≠ [] := by
  rw [segments_eq_splitOn]
  exact List.splitOn_ne_nil sep s

/-- The pieces and the separators between them are the whole text. -/
theorem intercalate_segments : [sep].intercalate (segments sep s) = s := by
  rw [segments_eq_splitOn, List.intercalate_splitOn]

/-- An item of joined pieces comes from a separator or from a piece. -/
theorem mem_of_mem_intercalate {α : Type} {between : List α} {pieces : List (List α)} {x : α}
    (h : x ∈ between.intercalate pieces) : x ∈ between ∨ ∃ piece ∈ pieces, x ∈ piece := by
  induction pieces with
  | nil => simp at h
  | cons piece pieces ih =>
    cases pieces with
    | nil =>
      rw [List.intercalate_singleton] at h
      exact .inr ⟨piece, List.mem_cons_self, h⟩
    | cons next pieces =>
      rw [List.intercalate_cons_cons, List.mem_append, List.mem_append] at h
      rcases h with (h | h) | h
      · exact .inr ⟨piece, List.mem_cons_self, h⟩
      · exact .inl h
      · obtain h | ⟨other, hother, hx⟩ := ih h
        · exact .inl h
        · exact .inr ⟨other, List.mem_cons_of_mem piece hother, hx⟩

theorem intercalate_concat {pieces : List (List Char)} (hne : pieces ≠ []) (last : List Char) :
    [sep].intercalate (pieces ++ [last]) = [sep].intercalate pieces ++ sep :: last := by
  induction pieces with
  | nil => exact absurd rfl hne
  | cons piece pieces ih =>
    cases pieces with
    | nil => simp
    | cons next pieces =>
      have hrest := ih (List.cons_ne_nil next pieces)
      simp only [List.cons_append] at hrest ⊢
      simp [hrest]

end AccessorGen.Text
