import AccessorGen.Unicode

/-! Capitals are letters, and so is their lower case. The tables are compared run by run, so that
no code point needs to be looked at on its own. -/
namespace AccessorGen.Unicode

variable {r s : Run} {runs : List Run} {n : Nat} {c : Char}

/-- All code points of `r` lie in `s`, which leaves none out. -/
def Run.inside (r s : Run) : Bool :=
  s.first.ble r.first && r.last.ble s.last && s.stride == 1

def Run.points (r : Run) : List Nat :=
  List.range' r.first ((r.last - r.first) / r.stride + 1) r.stride

/-- Only the few runs that lie across several others are gone through point by point. -/
def Run.covered (runs : List Run) (r : Run) : Bool :=
  runs.any r.inside || r.points.all fun n => runs.any (Run.inside ⟨n, n, 1⟩)

theorem Run.contains_iff :
    r.contains n = true ↔ (r.first ≤ n ∧ n ≤ r.last) ∧ (n - r.first) % r.stride = 0 := by
  simp [Run.contains]

theorem Run.contains_of_inside (h : r.inside s = true) (hn : r.contains n = true) :
    s.contains n = true := by
  simp only [Run.inside, Bool.and_eq_true, Nat.ble_eq, beq_iff_eq] at h
  obtain ⟨⟨hfirst, hlast⟩, hstride⟩ := h
  obtain ⟨⟨hge, hle⟩, _⟩ := Run.contains_iff.mp hn
  rw [Run.contains_iff, hstride]
  exact ⟨⟨by omega, by omega⟩, Nat.mod_one _⟩

theorem Run.mem_points (hn : r.contains n = true) : n ∈ r.points := by
  obtain ⟨⟨hge, hle⟩, hmod⟩ := Run.contains_iff.mp hn
  have hdiv := Nat.div_add_mod (n - r.first) r.stride
  have hmono := Nat.div_le_div_right (c := r.stride) (show n - r.first ≤ r.last - r.first by omega)
  rw [Run.points, List.mem_range']
  exact ⟨(n - r.first) / r.stride, by omega, by omega⟩

theorem any_contains_of_covered (h : r.covered runs = true) (hn : r.contains n = true) :
    runs.any (·.contains n) = true := by
  rw [Run.covered, Bool.or_eq_true] at h
  rcases h with h | h
  · obtain ⟨s, hs, hinside⟩ := List.any_eq_true.mp h
    exact List.any_eq_true.mpr ⟨s, hs, Run.contains_of_inside hinside hn⟩
  · obtain ⟨s, hs, hinside⟩ := List.any_eq_true.mp (List.all_eq_true.mp h n (Run.mem_points hn))
    have hself : Run.contains ⟨n, n, 1⟩ n = true := by simp [Run.contains]
    exact List.any_eq_true.mpr ⟨s, hs, Run.contains_of_inside hinside hself⟩

theorem isUpper_iff_toNat : c.isUpper = true ↔ 65 ≤ c.toNat ∧ c.toNat ≤ 90 := by
  change decide (c.val ≥ 'A'.val ∧ c.val ≤ 'Z'.val) = true ↔ _
  rw [decide_eq_true_eq]
  exact Iff.rfl

theorem isLower_iff_toNat : c.isLower = true ↔ 97 ≤ c.toNat ∧ c.toNat ≤ 122 := by
  change (decide (c.val ≥ 'a'.val) && decide (c.val ≤ 'z'.val)) = true ↔ _
  rw [Bool.and_eq_true, decide_eq_true_eq, decide_eq_true_eq]
  exact Iff.rfl

theorem isAlphabetic_of_isLower (h : c.isLower = true) : isAlphabetic c = true := by
  obtain ⟨_, hle⟩ := isLower_iff_toNat.mp h
  rw [isAlphabetic, if_pos (by omega)]
  exact Bool.or_eq_true_iff.mpr (.inr h)

theorem isUppercase_eq_false_of_isLower (h : c.isLower = true) : isUppercase c = false := by
  obtain ⟨hge, hle⟩ := isLower_iff_toNat.mp h
  rw [isUppercase, if_pos (by omega), Bool.eq_false_iff]
  intro hupper
  obtain ⟨_, hle⟩ := isUpper_iff_toNat.mp hupper
  omega

theorem toLower_of_isUpper (h : c.isUpper = true) :
    c.toLower.isLower = true ∧ c.toLower.toUpper = c := by
  have hall : ∀ n < 128, (Char.ofNat n).isUpper = true →
      (Char.ofNat n).toLower.isLower = true ∧ (Char.ofNat n).toLower.toUpper = Char.ofNat n := by
    decide
  obtain ⟨_, hle⟩ := isUpper_iff_toNat.mp h
  have hc := hall c.toNat (by omega)
  rw [Char.ofNat_toNat] at hc
  exact hc h

theorem toUpper_of_isUpper (h : c.isUpper = true) : c.toUpper = c := by
  obtain ⟨_, hle⟩ := isUpper_iff_toNat.mp h
  refine dif_neg ?_
  rintro ⟨hge, _⟩
  have hge : 97 ≤ c.toNat := hge
  omega

theorem uppercaseRuns_covered : uppercaseRuns.all (·.covered alphabeticRuns) = true := by
  decide +kernel

theorem isAlphabetic_of_isUppercase (h : isUppercase c = true) : isAlphabetic c = true := by
  rw [isUppercase] at h
  rw [isAlphabetic]
  by_cases hc : c.toNat < 128
  · rw [if_pos hc] at h ⊢
    exact Bool.or_eq_true_iff.mpr (.inl h)
  · rw [if_neg hc] at h ⊢
    obtain ⟨r, hr, hn⟩ := List.any_eq_true.mp h
    exact any_contains_of_covered (List.all_eq_true.mp uppercaseRuns_covered r hr) hn

/-- The code points that a shift leads to. -/
def Shift.image (s : Shift) : Run :=
  ⟨s.target, s.apply s.run.last, 1⟩

theorem Shift.contains_image {s : Shift} (hn : s.run.contains n = true) :
    s.image.contains (s.apply n) = true := by
  obtain ⟨⟨hge, hle⟩, _⟩ := Run.contains_iff.mp hn
  rw [Run.contains_iff]
  refine ⟨⟨?_, ?_⟩, Nat.mod_one _⟩
  · exact Nat.le_add_right _ _
  · simp only [Shift.image, Shift.apply]
    omega

/-- The Kelvin sign goes to the letter k. No other shift leads into ASCII. -/
theorem lowercaseShifts_covered : lowercaseShifts.all (fun s =>
    s.image.covered alphabeticRuns || s.image.inside ⟨'k'.toNat, 'k'.toNat, 1⟩) = true := by
  decide +kernel

theorem alphabeticRuns_valid : alphabeticRuns.all (fun r =>
    Nat.ble 128 r.first &&
      (r.last.blt 0xD800 || Nat.blt 0xDFFF r.first && r.last.blt 0x110000)) = true := by
  decide +kernel

theorem valid_of_alphabeticRuns (h : alphabeticRuns.any (·.contains n) = true) :
    128 ≤ n ∧ n.isValidChar := by
  obtain ⟨r, hr, hn⟩ := List.any_eq_true.mp h
  obtain ⟨⟨hge, hle⟩, _⟩ := Run.contains_iff.mp hn
  have hvalid := List.all_eq_true.mp alphabeticRuns_valid r hr
  simp only [Bool.and_eq_true, Bool.or_eq_true, Nat.ble_eq, Nat.blt_eq] at hvalid
  refine ⟨by omega, ?_⟩
  rw [Nat.isValidChar]
  omega

theorem isAlphabetic_ofNat (h : alphabeticRuns.any (·.contains n) = true) :
    isAlphabetic (Char.ofNat n) = true ∧ 128 ≤ (Char.ofNat n).toNat := by
  obtain ⟨hge, hvalid⟩ := valid_of_alphabeticRuns h
  have hn : (Char.ofNat n).toNat = n := by
    rw [Char.ofNat, dif_pos hvalid]
    rfl
  rw [isAlphabetic, hn, if_neg (by omega)]
  exact ⟨h, hge⟩

theorem lowercase_of_lt (h : c.toNat < 128) : lowercase c = [c.toLower] := by
  rw [lowercase, if_pos h]

/-- Beyond ASCII a letter other than the dotted capital I has one letter for its lower case. -/
theorem lowercase_of_le (hc : 128 ≤ c.toNat) (hdot : c ≠ '\u0130')
    (halpha : isAlphabetic c = true) : ∃ d, lowercase c = [d] ∧ isAlphabetic d = true ∧
      (d = 'k' ∨ 128 ≤ d.toNat) := by
  rw [lowercase, if_neg (by omega), if_neg (by simpa using hdot)]
  cases hfind : lowercaseShifts.find? (·.run.contains c.toNat) with
  | none => exact ⟨c, rfl, halpha, .inr hc⟩
  | some s =>
    have hrun : s.run.contains c.toNat = true := by
      simpa using List.find?_some hfind
    have himage := Shift.contains_image hrun
    have hs := List.all_eq_true.mp lowercaseShifts_covered s (List.mem_of_find?_eq_some hfind)
    refine ⟨_, rfl, ?_⟩
    rcases Bool.or_eq_true _ _ ▸ hs with hs | hs
    · obtain ⟨halpha, hge⟩ := isAlphabetic_ofNat (any_contains_of_covered hs himage)
      exact ⟨halpha, .inr hge⟩
    · obtain ⟨⟨hge, hle⟩, _⟩ := Run.contains_iff.mp (Run.contains_of_inside hs himage)
      have hk : s.apply c.toNat = 'k'.toNat := Nat.le_antisymm hle hge
      rw [hk]
      exact ⟨by decide, .inl (by decide)⟩

/-- A small ASCII letter other than k is the lower case of its own capital alone. -/
theorem lowercase_of_isUppercase (h : isUppercase c = true) (hdot : c ≠ '\u0130') :
    ∃ d, lowercase c = [d] ∧ isAlphabetic d = true ∧
      (d.isLower = true → d ≠ 'k' → c.isUpper = true ∧ d = c.toLower) := by
  by_cases hc : c.toNat < 128
  · rw [isUppercase, if_pos hc] at h
    have hlower := (toLower_of_isUpper h).1
    exact ⟨c.toLower, lowercase_of_lt hc, isAlphabetic_of_isLower hlower, fun _ _ => ⟨h, rfl⟩⟩
  · have halpha := isAlphabetic_of_isUppercase h
    obtain ⟨d, hd, hdalpha, hk | hge⟩ := lowercase_of_le (Nat.le_of_not_lt hc) hdot halpha
    · exact ⟨d, hd, hdalpha, fun _ hne => absurd hk hne⟩
    · refine ⟨d, hd, hdalpha, fun hlower => ?_⟩
      obtain ⟨_, hle⟩ := isLower_iff_toNat.mp hlower
      omega

end AccessorGen.Unicode
