import AccessorGen.Identifier
import AccessorGen.Proofs.Letters

/-! What a name without a fault is made of, and what can be wrong with a name that starts with a
letter. -/
namespace AccessorGen.Identifier

variable {c : Char} {rest : List Char} {name word : String}

theorem isStart_of_isAlphabetic (h : Unicode.isAlphabetic c = true) : isStart c = true := by
  simp [isStart, h]

theorem isPart_of_isStart (h : isStart c = true) : isPart c = true := by
  rw [isStart, Bool.or_assoc, Bool.or_eq_true] at h
  rw [isPart, Unicode.isAlphanumeric, Bool.or_assoc, Bool.or_eq_true, Bool.or_eq_true]
  rcases h with h | h
  · exact .inl (.inl h)
  · exact .inr h

theorem isPart_of_fault?_eq_none (h : fault? name = none) : ∀ c ∈ name.toList, isPart c = true := by
  cases hname : name.toList with
  | nil => simp
  | cons c rest =>
    rw [fault?, hname] at h
    by_cases hdigit : c.isDigit = true
    · simp [hdigit] at h
    by_cases hstart : isStart c = true
    · by_cases hrest : rest.all isPart = true
      · exact List.forall_mem_cons.mpr ⟨isPart_of_isStart hstart, List.all_eq_true.mp hrest⟩
      · simp [hdigit, hstart, hrest] at h
    · simp [hdigit, hstart] at h

theorem isDigit_eq_false_of_isAlphabetic (h : Unicode.isAlphabetic c = true) :
    c.isDigit = false := by
  rw [Bool.eq_false_iff]
  intro hdigit
  obtain ⟨hge, hle⟩ := Char.isDigit_iff_toNat.mp hdigit
  have hascii : c.toNat < 128 := Nat.lt_of_le_of_lt hle (by decide)
  have hnine : '9'.toNat = 57 := rfl
  rw [Unicode.isAlphabetic, if_pos hascii] at h
  rcases Bool.or_eq_true_iff.mp h with h | h
  · obtain ⟨hupper, _⟩ := Unicode.isUpper_iff_toNat.mp h
    omega
  · obtain ⟨hlower, _⟩ := Unicode.isLower_iff_toNat.mp h
    omega

/-- After a letter, only a bad character or a reserved word is left to be found fault with. -/
theorem fault?_cons (hc : Unicode.isAlphabetic c = true) :
    fault? (String.ofList (c :: rest)) =
      if rest.all isPart = false then some .badPart
      else if String.ofList (c :: rest) ∈ reserved then some .reserved else none := by
  simp [fault?, isDigit_eq_false_of_isAlphabetic hc, isStart_of_isAlphabetic hc]

theorem fault?_cons_eq_none (hc : Unicode.isAlphabetic c = true)
    (hrest : ∀ d ∈ rest, isPart d = true) (hlegal : String.ofList (c :: rest) ∉ reserved) :
    fault? (String.ofList (c :: rest)) = none := by
  have hall : rest.all isPart = true := List.all_eq_true.mpr hrest
  rw [fault?_cons hc, hall, if_neg (by decide), if_neg hlegal]

/-- That no reserved word starts with a k keeps the Kelvin sign from turning into the first letter
of one. -/
theorem reserved_head (h : word ∈ reserved) :
    ∃ c rest, word.toList = c :: rest ∧ c.isLower = true ∧ c ≠ 'k' := by
  have hall : ∀ word ∈ reserved,
      word.toList.head?.any (fun c => c.isLower && c != 'k') = true := by decide
  have hhead := hall word h
  cases hword : word.toList with
  | nil => simp [hword] at hhead
  | cons c rest =>
    rw [hword, List.head?_cons, Option.any_some, Bool.and_eq_true, bne_iff_ne] at hhead
    exact ⟨c, rest, rfl, hhead⟩

theorem fault?_of_mem_reserved (h : word ∈ reserved) : fault? word = some .reserved := by
  have hall : ∀ word ∈ reserved, fault? word = some .reserved := by decide
  exact hall word h

theorem not_mem_reserved_of_isUppercase (h : Unicode.isUppercase c = true) :
    String.ofList (c :: rest) ∉ reserved := by
  intro hmem
  obtain ⟨d, _, hword, hlower, _⟩ := reserved_head hmem
  rw [String.toList_ofList, List.cons.injEq] at hword
  rw [hword.1, Unicode.isUppercase_eq_false_of_isLower hlower] at h
  cases h

end AccessorGen.Identifier
