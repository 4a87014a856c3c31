import AccessorGen.Proofs.Text

/-! Texts made of lines, and lines in paragraphs. Both can be taken apart again where no line holds
a line end and no paragraph a blank line. -/
namespace AccessorGen.Code

variable {ls ls' : List String} {ps ps' : List (List String)}

/-- A text that takes up one line and does not leave it blank. -/
structure OneLine (s : String) : Prop where
  newline_not_mem : '\n' ∉ s.toList
  ne_empty : s ≠ ""

instance (s : String) : Decidable (OneLine s) :=
  decidable_of_iff ('\n' ∉ s.toList ∧ s ≠ "") ⟨fun h => ⟨h.1, h.2⟩, fun h => ⟨h.1, h.2⟩⟩

theorem newline_not_mem_append {s u : String} (hs : '\n' ∉ s.toList) (hu : '\n' ∉ u.toList) :
    '\n' ∉ (s ++ u).toList := by
  rw [String.toList_append, List.mem_append, not_or]
  exact ⟨hs, hu⟩

theorem OneLine.append {s u : String} (hs : OneLine s) (hu : '\n' ∉ u.toList) :
    OneLine (s ++ u) := by
  refine ⟨newline_not_mem_append hs.newline_not_mem hu, ?_⟩
  intro hempty
  exact hs.ne_empty (String.append_eq_empty_iff.mp hempty).1

/-- The text of the given lines, each ended. -/
def ofLines (ls : List String) : String := String.join (ls.map (· ++ "\n"))

theorem ofLines_cons (s : String) (ls : List String) :
    ofLines (s :: ls) = s ++ "\n" ++ ofLines ls := by
  rw [ofLines, List.map_cons, String.join_cons, ofLines]

theorem ofLines_append (ls ls' : List String) : ofLines (ls ++ ls') = ofLines ls ++ ofLines ls' := by
  rw [ofLines, List.map_append, String.join_append, ofLines, ofLines]

theorem ofLines_flatMap {α : Type} (f : α → List String) (l : List α) :
    ofLines (l.flatMap f) = String.join (l.map fun a => ofLines (f a)) := by
  induction l with
  | nil => rfl
  | cons a l ih => rw [List.flatMap_cons, ofLines_append, ih, List.map_cons, String.join_cons]

/-- The lines of the given paragraphs, with a blank line between one and the next. -/
def ofParagraphs (ps : List (List String)) : List String := [""].intercalate ps

/-- Behind the last line end there is one more, empty piece. -/
theorem toList_ofLines (ls : List String) :
    (ofLines ls).toList = ['\n'].intercalate (ls.map String.toList ++ [[]]) := by
  induction ls with
  | nil => rfl
  | cons s ls ih =>
    obtain ⟨next, rest, hrest⟩ : ∃ next rest, ls.map String.toList ++ [[]] = next :: rest :=
      List.exists_cons_of_ne_nil (by simp)
    rw [ofLines_cons, String.toList_append, ih, List.map_cons, List.cons_append, hrest,
      List.intercalate_cons_cons]
    simp

theorem splitOn_ofLines (h : ∀ s ∈ ls, '\n' ∉ s.toList) :
    (ofLines ls).toList.splitOn '\n' = ls.map String.toList ++ [[]] := by
  rw [toList_ofLines]
  refine List.splitOn_intercalate '\n' (fun piece hpiece => ?_) (by simp)
  rcases List.mem_append.mp hpiece with hpiece | hpiece
  · obtain ⟨s, hs, rfl⟩ := List.mem_map.mp hpiece
    exact h s hs
  · simp [List.mem_singleton.mp hpiece]

theorem ofLines_inj (h : ∀ s ∈ ls, '\n' ∉ s.toList) (h' : ∀ s ∈ ls', '\n' ∉ s.toList)
    (heq : ofLines ls = ofLines ls') : ls = ls' := by
  have hpieces : ls.map String.toList ++ [[]] = ls'.map String.toList ++ [[]] := by
    rw [← splitOn_ofLines h, ← splitOn_ofLines h', heq]
  have hlines := List.append_cancel_right hpieces
  exact (List.map_inj_right fun _ _ => String.toList_injective).mp hlines

theorem ofParagraphs_cons (p : List String) (ps : List (List String)) :
    ofParagraphs (p :: ps) = p ++ ps.flatMap ("" :: ·) := by
  induction ps generalizing p with
  | nil => simp [ofParagraphs]
  | cons next ps ih =>
    rw [ofParagraphs, List.intercalate_cons_cons, ← ofParagraphs, ih, List.flatMap_cons]
    simp

theorem ofParagraphs_inj (h : ∀ p ∈ ps, "" ∉ p) (h' : ∀ p ∈ ps', "" ∉ p) (hne : ps ≠ [])
    (hne' : ps' ≠ []) (heq : ofParagraphs ps = ofParagraphs ps') : ps = ps' := by
  rw [← List.splitOn_intercalate "" h hne, ← List.splitOn_intercalate "" h' hne']
  exact congrArg (List.splitOn "") heq

theorem mem_ofParagraphs {s : String} (h : s ∈ ofParagraphs ps) : s = "" ∨ ∃ p ∈ ps, s ∈ p := by
  obtain h | h := Text.mem_of_mem_intercalate h
  · exact .inl (List.mem_singleton.mp h)
  · exact .inr h

end AccessorGen.Code
