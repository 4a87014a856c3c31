import AccessorGen.AnnotationUse.Arguments
import AccessorGen.Proofs.Text

/-! The grammar of an annotation's arguments, and the scan for the closing parenthesis as a reader
of that grammar. -/
namespace AccessorGen.AnnotationUse

variable {g g' i s t rest : List Char} {items : List (List Char)} {c quote : Char}
  {mode : ScanMode} {d n offset : Nat}

/-- What stands behind the opening quote of a literal, with the closing one. -/
inductive LiteralTail (quote : Char) : List Char → Prop
  | close : LiteralTail quote [quote]
  /-- A backslash takes the next character with it, whatever it is. -/
  | escape (c : Char) {s : List Char} (hs : LiteralTail quote s) :
      LiteralTail quote ('\\' :: c :: s)
  | plain {c : Char} {s : List Char} (hc : c ≠ '\\') (hq : c ≠ quote) (hs : LiteralTail quote s) :
      LiteralTail quote (c :: s)

/-- A group, a literal, or a single character that neither opens nor closes anything. -/
inductive Item : List Char → Prop
  | group {items : List (List Char)} (h : ∀ i ∈ items, Item i) :
      Item ('(' :: items.flatten ++ [')'])
  | literal {quote : Char} {s : List Char} (hq : quote = '"' ∨ quote = '\'')
      (hs : LiteralTail quote s) : Item (quote :: s)
  | other {c : Char} (h : c ∉ ['(', ')', '"', '\'']) : Item [c]

/-- Any number of items between parentheses. -/
def Group (g : List Char) : Prop :=
  ∃ items : List (List Char), (∀ i ∈ items, Item i) ∧ g = '(' :: items.flatten ++ [')']

theorem Group.eq_cons (hg : Group g) : ∃ s, g = '(' :: s := by
  obtain ⟨items, _, rfl⟩ := hg
  exact ⟨items.flatten ++ [')'], rfl⟩

/-- In a literal the depth stays as it is; only the mode moves on. -/
theorem closingFrom?_literal : closingFrom? (.literal quote) d offset (c :: s) =
    closingFrom? (ScanMode.next (.literal quote) c) d (offset + c.utf8Size) s := by
  simp [closingFrom?, depthAfter?]

theorem closingFrom?_escaped : closingFrom? (.escaped quote) d offset (c :: s) =
    closingFrom? (.literal quote) d (offset + c.utf8Size) s := by
  simp [closingFrom?, depthAfter?, ScanMode.next]

theorem closingFrom?_open : closingFrom? .plain d offset ('(' :: s) =
    closingFrom? .plain (d + 1) (offset + 1) s := by
  simp [closingFrom?, depthAfter?, ScanMode.next]
  rfl

theorem closingFrom?_close_last : closingFrom? .plain 1 offset (')' :: s) = some offset := by
  simp [closingFrom?, depthAfter?]

theorem closingFrom?_close : closingFrom? .plain (d + 2) offset (')' :: s) =
    closingFrom? .plain (d + 1) (offset + 1) s := by
  simp [closingFrom?, depthAfter?, ScanMode.next]
  rfl

theorem closingFrom?_quote (hq : c = '"' ∨ c = '\'') : closingFrom? .plain d offset (c :: s) =
    closingFrom? (.literal c) d (offset + c.utf8Size) s := by
  rcases hq with rfl | rfl <;> simp [closingFrom?, depthAfter?, ScanMode.next]

theorem closingFrom?_other (hc : c ∉ ['(', ')', '"', '\'']) :
    closingFrom? .plain d offset (c :: s) = closingFrom? .plain d (offset + c.utf8Size) s := by
  simp only [List.mem_cons, List.not_mem_nil, or_false, not_or] at hc
  simp [closingFrom?, depthAfter?, ScanMode.next, hc]

/-- Inside parentheses the scan passes over such a text without closing the outermost one. -/
def Skipped (s : List Char) : Prop :=
  ∀ (d offset : Nat) (t : List Char), closingFrom? .plain (d + 1) offset (s ++ t) =
    closingFrom? .plain (d + 1) (offset + Text.byteLength s) t

theorem skipped_flatten (h : ∀ i ∈ items, Skipped i) : Skipped items.flatten := by
  intro d offset t
  induction items generalizing offset with
  | nil => rfl
  | cons i items ih =>
    have hi := h i List.mem_cons_self d offset (items.flatten ++ t)
    have hrest := ih (fun j hj => h j (List.mem_cons_of_mem i hj)) (offset + Text.byteLength i)
    rw [List.flatten_cons, List.append_assoc, hi, hrest, Text.byteLength_append, Nat.add_assoc]

/-- A scan inside a literal comes out of it where the literal ends. -/
theorem closingFrom?_literalTail (hq : quote ≠ '\\') (hs : LiteralTail quote s) :
    closingFrom? (.literal quote) d offset (s ++ t) =
      closingFrom? .plain d (offset + Text.byteLength s) t := by
  induction hs generalizing offset with
  | close => simp [closingFrom?_literal, ScanMode.next, hq]
  | escape c hs ih =>
    simp only [List.cons_append, closingFrom?_literal, ScanMode.next, if_true,
      closingFrom?_escaped, ih, Text.byteLength_cons]
    simp only [Nat.add_assoc]
  | plain hc hne hs ih =>
    simp only [List.cons_append, closingFrom?_literal, ScanMode.next, hc, hne, if_false, ih,
      Text.byteLength_cons, Nat.add_assoc]

theorem skipped_item (hi : Item i) : Skipped i := by
  induction hi with
  | @group items h ih =>
    intro d offset t
    have hitems := skipped_flatten ih (d + 1) (offset + 1) (')' :: t)
    simp only [List.cons_append, List.append_assoc, List.nil_append]
    rw [closingFrom?_open, hitems, closingFrom?_close]
    congr 1
    simp only [Text.byteLength_cons, Text.byteLength_append, Text.byteLength_nil]
    change _ = offset + (1 + (Text.byteLength items.flatten + (1 + 0)))
    omega
  | @literal quote s hq hs =>
    intro d offset t
    have hne : quote ≠ '\\' := by rcases hq with rfl | rfl <;> decide
    rw [List.cons_append, closingFrom?_quote hq, closingFrom?_literalTail hne hs,
      Text.byteLength_cons, Nat.add_assoc]
  | other h =>
    intro d offset t
    rw [List.cons_append, List.nil_append, closingFrom?_other h]
    rfl

/-- Text that closes so many parentheses and ends with the last of them. -/
inductive Closes : Nat → List Char → Prop
  | done : Closes 0 []
  | next {d : Nat} {items : List (List Char)} {s : List Char} (h : ∀ i ∈ items, Item i)
      (hs : Closes d s) : Closes (d + 1) (items.flatten ++ ')' :: s)

theorem Closes.cons_item (hi : Item i) (hs : Closes (d + 1) s) : Closes (d + 1) (i ++ s) := by
  cases hs with
  | @next _ items s h hs =>
    have hall : ∀ j ∈ i :: items, Item j := by
      intro j hj
      rcases List.mem_cons.mp hj with rfl | hj
      · exact hi
      · exact h j hj
    simpa using Closes.next hall hs

theorem Closes.cons_close (hs : Closes d s) : Closes (d + 1) (')' :: s) := by
  have hnone : ∀ i ∈ ([] : List (List Char)), Item i := by simp
  exact .next hnone hs

/-- One more open parenthesis at the front makes a group of the first items. -/
theorem Closes.open_group (hs : Closes (d + 2) s) : Closes (d + 1) ('(' :: s) := by
  cases hs with
  | next h hs => simpa using hs.cons_item (.group h)

/-- What a scan in some mode still has to read before it is between literals again. -/
def ScanMode.Finishes : ScanMode → List Char → Prop
  | plain, s => s = []
  | literal quote, s => LiteralTail quote s
  | escaped quote, s => ∃ c t, s = c :: t ∧ LiteralTail quote t

/-- A scan that finds the closing parenthesis has read the rest of a literal and then items. -/
theorem closes_of_closingFrom? (h : closingFrom? mode (d + 1) offset s = some n) :
    ∃ l u rest, s = l ++ u ++ rest ∧ mode.Finishes l ∧ Closes (d + 1) u := by
  induction s generalizing mode d offset with
  | nil => cases h
  | cons c s ih =>
    cases mode with
    | plain =>
      by_cases hopen : c = '('
      · subst c
        rw [closingFrom?_open] at h
        obtain ⟨_, u, rest, rfl, rfl, hu⟩ := ih h
        exact ⟨[], '(' :: u, rest, rfl, rfl, hu.open_group⟩
      by_cases hclose : c = ')'
      · subst c
        cases d with
        | zero => exact ⟨[], [')'], s, rfl, rfl, Closes.done.cons_close⟩
        | succ d =>
          rw [closingFrom?_close] at h
          obtain ⟨_, u, rest, rfl, rfl, hu⟩ := ih h
          exact ⟨[], ')' :: u, rest, rfl, rfl, hu.cons_close⟩
      by_cases hquote : c = '"' ∨ c = '\''
      · rw [closingFrom?_quote hquote] at h
        obtain ⟨l, u, rest, rfl, hl, hu⟩ := ih h
        exact ⟨[], c :: l ++ u, rest, by simp, rfl, hu.cons_item (.literal hquote hl)⟩
      · have hother : c ∉ ['(', ')', '"', '\''] := by simp_all
        rw [closingFrom?_other hother] at h
        obtain ⟨_, u, rest, rfl, rfl, hu⟩ := ih h
        exact ⟨[], c :: u, rest, rfl, rfl, hu.cons_item (.other hother)⟩
    | literal quote =>
      rw [closingFrom?_literal, ScanMode.next] at h
      by_cases hesc : c = '\\'
      · subst c
        rw [if_pos rfl] at h
        obtain ⟨_, u, rest, rfl, ⟨c, l, rfl, hl⟩, hu⟩ := ih h
        exact ⟨'\\' :: c :: l, u, rest, rfl, .escape c hl, hu⟩
      by_cases hend : c = quote
      · subst c
        rw [if_neg hesc, if_pos rfl] at h
        obtain ⟨_, u, rest, rfl, rfl, hu⟩ := ih h
        exact ⟨[quote], u, rest, rfl, .close, hu⟩
      · rw [if_neg hesc, if_neg hend] at h
        obtain ⟨l, u, rest, rfl, hl, hu⟩ := ih h
        exact ⟨c :: l, u, rest, rfl, .plain hesc hend hl, hu⟩
    | escaped quote =>
      rw [closingFrom?_escaped] at h
      obtain ⟨l, u, rest, rfl, hl, hu⟩ := ih h
      exact ⟨c :: l, u, rest, rfl, ⟨c, l, rfl, hl⟩, hu⟩

/-- The scan reads a group and stops at its last parenthesis. -/
theorem closing?_group (hg : Group g) (rest : List Char) :
    ∃ n, closing? (g ++ rest) = some n ∧ n + 1 = Text.byteLength g := by
  obtain ⟨items, h, rfl⟩ := hg
  have hskip := skipped_flatten (fun i hi => skipped_item (h i hi)) 0 (0 + 1) (')' :: rest)
  refine ⟨0 + 1 + Text.byteLength items.flatten, ?_, ?_⟩
  · rw [closing?, List.cons_append, List.cons_append, closingFrom?_open, List.append_assoc]
    exact hskip.trans closingFrom?_close_last
  · have hopen : '('.utf8Size = 1 := rfl
    have hclose : ')'.utf8Size = 1 := rfl
    simp only [Text.byteLength_cons, Text.byteLength_append, Text.byteLength_nil, List.cons_append]
    omega

theorem group_of_closing? (h : closing? ('(' :: s) = some n) :
    ∃ g, Group g ∧ g <+: '(' :: s := by
  rw [closing?, closingFrom?_open] at h
  obtain ⟨_, u, rest, rfl, rfl, hu⟩ := closes_of_closingFrom? h
  cases hu with
  | @next _ items t hitems ht =>
    cases ht
    exact ⟨'(' :: items.flatten ++ [')'], ⟨items, hitems, rfl⟩, rest, rfl⟩

theorem afterClosing?_group (hg : Group g) (rest : List Char) :
    afterClosing? (g ++ rest) = some rest := by
  obtain ⟨n, hn, hlen⟩ := closing?_group hg rest
  rw [afterClosing?, hn, Option.bind_some, hlen, Text.splitAtByte?_byteLength]
  rfl

/-- Arguments are cut behind the group that they start with. -/
theorem afterClosing?_eq_some_iff :
    afterClosing? ('(' :: s) = some rest ↔ ∃ g, Group g ∧ '(' :: s = g ++ rest := by
  constructor
  · intro h
    obtain ⟨n, hn, _⟩ := Option.bind_eq_some_iff.mp h
    obtain ⟨g, hg, t, ht⟩ := group_of_closing? hn
    rw [← ht, afterClosing?_group hg] at h
    cases h
    exact ⟨g, hg, ht.symm⟩
  · rintro ⟨g, hg, hs⟩
    rw [hs, afterClosing?_group hg]

theorem afterClosing?_eq_none_iff :
    afterClosing? ('(' :: s) = none ↔ ∀ g, g <+: '(' :: s → ¬ Group g := by
  constructor
  · rintro h g ⟨t, ht⟩ hg
    rw [← ht, afterClosing?_group hg] at h
    cases h
  · intro h
    cases hcut : afterClosing? ('(' :: s) with
    | none => rfl
    | some rest =>
      obtain ⟨g, hg, hs⟩ := afterClosing?_eq_some_iff.mp hcut
      exact absurd hg (h g ⟨rest, hs.symm⟩)

/-- A text starts with at most one group. -/
theorem Group.append_inj (hg : Group g) (hg' : Group g') (h : g ++ s = g' ++ t) :
    g = g' ∧ s = t := by
  have hcut := afterClosing?_group hg s
  rw [h, afterClosing?_group hg'] at hcut
  cases hcut
  exact ⟨List.append_cancel_right h, rfl⟩

end AccessorGen.AnnotationUse
