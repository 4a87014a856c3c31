import AccessorGen.Proofs.ArgumentGrammar

/-! How many parentheses are open at each place of an annotation's arguments. Until the first one
is closed the scan closes nothing that is not open, and that is where it ends. -/
namespace AccessorGen.AnnotationUse

variable {read s rest : List Char} {c : Char} {mode : ScanMode} {depth depth' n : Nat}

/-- Mode and number of open parentheses behind one more character. -/
def scanStep? (place : ScanMode × Nat) (c : Char) : Option (ScanMode × Nat) :=
  (depthAfter? place.1 place.2 c).map (place.1.next c, ·)

/-- Mode and number of open parentheses behind a text that is read from its start; none if a
parenthesis in it closes nothing. -/
def scanned? (read : List Char) : Option (ScanMode × Nat) :=
  read.foldlM scanStep? (.plain, 0)

def depth? (read : List Char) : Option Nat :=
  (scanned? read).map Prod.snd

/-- Behind each character at least one parenthesis is open. -/
def StaysOpen (read : List Char) : Prop :=
  ∀ earlier, earlier <+: read → earlier ≠ [] → ∃ depth, depth? earlier = some (depth + 1)

/-- No character of the text has closed the first parenthesis, so the scan goes on behind it. -/
def Unfinished (read : List Char) : Prop :=
  ∀ earlier, earlier <+: read → earlier ≠ [] → depth? earlier ≠ some 0

/-- Between literals a parenthesis opens or closes one; nothing else changes the depth. -/
theorem depthAfter?_cases (mode : ScanMode) (depth : Nat) (c : Char) :
    (mode = .plain ∧ c = '(' ∧ depthAfter? mode depth c = some (depth + 1)) ∨
    (mode = .plain ∧ c = ')' ∧
      depthAfter? mode depth c = if depth = 0 then none else some (depth - 1)) ∨
    (¬ (mode = .plain ∧ c = ')') ∧ depthAfter? mode depth c = some depth) := by
  by_cases hmode : mode = .plain
  · by_cases hopen : c = '('
    · exact Or.inl ⟨hmode, hopen, by simp [depthAfter?, hmode, hopen]⟩
    by_cases hclose : c = ')'
    · exact Or.inr (Or.inl ⟨hmode, hclose, by simp [depthAfter?, hmode, hclose]⟩)
    · exact Or.inr (Or.inr ⟨fun h => hclose h.2, by simp [depthAfter?, hopen, hclose]⟩)
  · exact Or.inr (Or.inr ⟨fun h => hmode h.1, by simp [depthAfter?, hmode]⟩)

theorem depthAfter?_eq_none_iff :
    depthAfter? mode depth c = none ↔ mode = .plain ∧ c = ')' ∧ depth = 0 := by
  rcases depthAfter?_cases mode depth c with ⟨_, rfl, h⟩ | ⟨hmode, hc, h⟩ | ⟨hother, h⟩ <;> rw [h]
  · simp
  · simp [hmode, hc]
  · simp only [reduceCtorEq, false_iff]
    exact fun hnone => hother ⟨hnone.1, hnone.2.1⟩

/-- While one is open, the depth is zero next only where the last one is closed. -/
theorem exists_depthAfter? (mode : ScanMode) (depth : Nat) (c : Char) :
    ∃ depth', depthAfter? mode (depth + 1) c = some depth' ∧
      (depth' = 0 → mode = .plain ∧ c = ')' ∧ depth = 0) := by
  rcases depthAfter?_cases mode (depth + 1) c with ⟨_, _, h⟩ | ⟨hmode, hc, h⟩ | ⟨_, h⟩
  · exact ⟨depth + 2, h, fun hzero => absurd hzero (by omega)⟩
  · exact ⟨depth, h, fun hzero => ⟨hmode, hc, hzero⟩⟩
  · exact ⟨depth + 1, h, fun hzero => absurd hzero (by omega)⟩

theorem scanned?_concat : scanned? (read ++ [c]) = (scanned? read).bind (scanStep? · c) := by
  rw [scanned?, List.foldlM_append]
  cases h : List.foldlM scanStep? (ScanMode.plain, 0) read with
  | none => simp [scanned?, h]
  | some place => simp [scanned?, h]

/-- A character behind which a parenthesis is open hands the scan on to the next one. -/
theorem closingFrom?_cons (h : depthAfter? mode depth c = some depth') (hopen : depth' ≠ 0)
    (offset : Nat) : closingFrom? mode depth offset (c :: s) =
      closingFrom? (mode.next c) depth' (offset + c.utf8Size) s := by
  simp [closingFrom?, h, hopen]

theorem staysOpen_nil : StaysOpen [] := by
  intro earlier hpre hne
  exact absurd (List.prefix_nil.mp hpre) hne

theorem staysOpen_concat_iff :
    StaysOpen (read ++ [c]) ↔ StaysOpen read ∧ ∃ depth, depth? (read ++ [c]) = some (depth + 1) := by
  constructor
  · intro h
    refine ⟨fun earlier hpre => h earlier (hpre.trans (List.prefix_append read [c])), ?_⟩
    exact h (read ++ [c]) (List.prefix_refl _) (by simp)
  · rintro ⟨h, hlast⟩ earlier hpre hne
    rcases List.prefix_concat_iff.mp hpre with rfl | hpre
    · exact hlast
    · exact h earlier hpre hne

theorem StaysOpen.exists_scanned? (h : StaysOpen read) (hne : read ≠ []) :
    ∃ mode depth, scanned? read = some (mode, depth + 1) := by
  obtain ⟨depth, hdepth⟩ := h read (List.prefix_refl read) hne
  obtain ⟨⟨mode, _⟩, hplace, rfl⟩ := Option.map_eq_some_iff.mp hdepth
  exact ⟨mode, depth, hplace⟩

/-- As long as a parenthesis is open, the scan of any text that starts so goes on from there. -/
theorem StaysOpen.closing?_append (h : StaysOpen read) (hplace : scanned? read = some (mode, depth))
    (s : List Char) :
    closing? (read ++ s) = closingFrom? mode depth (Text.byteLength read) s := by
  -- from the end: the scan itself recurses on what is left, with its place as the accumulator
  induction read using List.reverseRecOn generalizing mode depth s with
  | nil =>
    cases hplace
    rfl
  | append_singleton read c ih =>
    obtain ⟨hread, last, hlast⟩ := staysOpen_concat_iff.mp h
    rw [depth?, hplace] at hlast
    rw [scanned?_concat] at hplace
    obtain ⟨place, hbefore, hstep⟩ := Option.bind_eq_some_iff.mp hplace
    obtain ⟨depth', hdepth, heq⟩ := Option.map_eq_some_iff.mp hstep
    cases heq
    cases hlast
    rw [List.append_assoc, List.singleton_append, ih hread hbefore,
      closingFrom?_cons hdepth (Nat.succ_ne_zero last), Text.byteLength_append]
    rfl

/-- Behind one more character a parenthesis is still open, or that character closes the last. -/
theorem StaysOpen.concat_or_closes (h : StaysOpen read) (hne : read ≠ []) (c : Char) :
    StaysOpen (read ++ [c]) ∨ c = ')' ∧ scanned? read = some (.plain, 1) := by
  obtain ⟨mode, depth, hplace⟩ := h.exists_scanned? hne
  obtain ⟨depth', hdepth, hzero⟩ := exists_depthAfter? mode depth c
  cases depth' with
  | zero =>
    obtain ⟨rfl, rfl, rfl⟩ := hzero rfl
    exact Or.inr ⟨rfl, hplace⟩
  | succ depth' =>
    refine Or.inl (staysOpen_concat_iff.mpr ⟨h, depth', ?_⟩)
    rw [depth?, scanned?_concat, hplace, Option.bind_some, scanStep?, hdepth]
    rfl

theorem staysOpen_open : StaysOpen ['('] :=
  staysOpen_concat_iff.mpr ⟨staysOpen_nil, 0, rfl⟩

/-- In no text that starts with a parenthesis does one close nothing before the first is closed. -/
theorem staysOpen_or_closes (s : List Char) : StaysOpen ('(' :: s) ∨
    ∃ read rest, '(' :: s = read ++ ')' :: rest ∧ StaysOpen read ∧
      scanned? read = some (.plain, 1) := by
  induction s using List.reverseRecOn with
  | nil => exact Or.inl staysOpen_open
  | append_singleton s c ih =>
    rcases ih with h | ⟨read, rest, hs, h, hplace⟩
    · rcases h.concat_or_closes (List.cons_ne_nil _ _) c with h' | ⟨rfl, hplace⟩
      · exact Or.inl h'
      · exact Or.inr ⟨'(' :: s, [], rfl, h, hplace⟩
    · refine Or.inr ⟨read, rest ++ [c], ?_, h, hplace⟩
      rw [← List.cons_append, hs, List.append_assoc, List.cons_append]

theorem StaysOpen.closing?_eq_none (h : StaysOpen ('(' :: s)) : closing? ('(' :: s) = none := by
  obtain ⟨mode, depth, hplace⟩ := h.exists_scanned? (List.cons_ne_nil _ _)
  have hscan := h.closing?_append hplace []
  rw [List.append_nil] at hscan
  exact hscan

theorem StaysOpen.closing?_of_last (h : StaysOpen read) (hplace : scanned? read = some (.plain, 1))
    (rest : List Char) : closing? (read ++ ')' :: rest) = some (Text.byteLength read) :=
  (h.closing?_append hplace (')' :: rest)).trans closingFrom?_close_last

theorem depth?_concat_close (hplace : scanned? read = some (.plain, 1)) :
    depth? (read ++ [')']) = some 0 := by
  rw [depth?, scanned?_concat, hplace]
  rfl

theorem StaysOpen.scanned?_of_depth?_concat (h : StaysOpen read) (hne : read ≠ [])
    (hzero : depth? (read ++ [c]) = some 0) : scanned? read = some (.plain, 1) := by
  rcases h.concat_or_closes hne c with hopen | ⟨_, hplace⟩
  · obtain ⟨_, depth, hdepth⟩ := staysOpen_concat_iff.mp hopen
    rw [hzero] at hdepth
    cases hdepth
  · exact hplace

/-- The offset found is that of the parenthesis behind which, for the first time, none is open. -/
theorem closing?_eq_some_iff : closing? ('(' :: s) = some n ↔
    ∃ read rest, '(' :: s = read ++ ')' :: rest ∧ Text.byteLength read = n ∧
      depth? (read ++ [')']) = some 0 ∧ StaysOpen read := by
  constructor
  · intro hn
    rcases staysOpen_or_closes s with h | ⟨read, rest, hs, h, hplace⟩
    · rw [h.closing?_eq_none] at hn
      cases hn
    · rw [hs, h.closing?_of_last hplace] at hn
      exact ⟨read, rest, hs, Option.some.inj hn, depth?_concat_close hplace, h⟩
  · rintro ⟨read, rest, hs, hlen, hzero, h⟩
    have hne : read ≠ [] := by
      rintro rfl
      cases hs
    rw [hs, h.closing?_of_last (h.scanned?_of_depth?_concat hne hzero), hlen]

-- The character between the parentheses takes two bytes.
example : closing? "(é)".toList = some 3 := by decide

/-- If the scan finds nothing, the text ran out on it and no parenthesis closed nothing. -/
theorem closing?_eq_none_iff : closing? ('(' :: s) = none ↔ StaysOpen ('(' :: s) := by
  constructor
  · intro hn
    rcases staysOpen_or_closes s with h | ⟨read, rest, hs, h, hplace⟩
    · exact h
    · rw [hs, h.closing?_of_last hplace] at hn
      cases hn
  · exact StaysOpen.closing?_eq_none

/-- Before the scan ends it never closes more than is open: the depth behind a character is first
zero before it could be missing. -/
theorem Unfinished.staysOpen (h : Unfinished read) (hread : '(' :: s = read ++ rest) :
    StaysOpen read := by
  cases read with
  | nil => exact staysOpen_nil
  | cons c t =>
    cases hread
    rcases staysOpen_or_closes t with hopen | ⟨front, back, ht, _, hplace⟩
    · exact hopen
    · have hpre : front ++ [')'] <+: '(' :: t := ⟨back, by rw [ht]; simp⟩
      exact absurd (depth?_concat_close hplace) (h _ hpre (by simp))

/-- Where the scan comes to a character it has a place, and that is the place from which it goes
on. If it closes a parenthesis there, one is open, so it is not stuck. -/
theorem Unfinished.exists_place (h : Unfinished read) (hread : '(' :: s = read ++ c :: rest) :
    ∃ mode depth, scanned? read = some (mode, depth) ∧
      closing? ('(' :: s) = closingFrom? mode depth (Text.byteLength read) (c :: rest) ∧
      (mode = .plain → c = ')' → 1 ≤ depth) ∧ depthAfter? mode depth c ≠ none := by
  have hopen := h.staysOpen hread
  obtain ⟨mode, depth, hplace, hpos⟩ : ∃ mode depth, scanned? read = some (mode, depth) ∧
      (mode = .plain → c = ')' → 1 ≤ depth) := by
    by_cases hne : read = []
    · -- the first character opens one
      subst read
      cases hread
      exact ⟨.plain, 0, rfl, fun _ hc => absurd hc (by decide)⟩
    · obtain ⟨mode, depth, hplace⟩ := hopen.exists_scanned? hne
      exact ⟨mode, depth + 1, hplace, fun _ _ => Nat.succ_pos depth⟩
  refine ⟨mode, depth, hplace, ?_, hpos, ?_⟩
  · rw [hread, hopen.closing?_append hplace]
  · intro hstuck
    obtain ⟨hmode, hc, hzero⟩ := depthAfter?_eq_none_iff.mp hstuck
    have hlt := hpos hmode hc
    omega

end AccessorGen.AnnotationUse
