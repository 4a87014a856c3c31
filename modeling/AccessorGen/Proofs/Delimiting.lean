/-! Printed texts that tell what they were printed from and where they end. -/
namespace AccessorGen

variable {α β : Type} {f : α → List Char} {g : β → List Char} {a b : α} {sep stop : Char}
  {l l' : List α} {r r' : List Char}

/-- No other value is printed as the start of the same text, whatever follows it. -/
def Delimits (f : α → List Char) (a : α) : Prop :=
  ∀ b r r', f a ++ r = f b ++ r' → a = b ∧ r = r'

namespace Delimits

theorem eq_of_eq (h : Delimits f a) (hab : f a = f b) : a = b :=
  (h b [] [] (by rw [hab])).1

/-- A reader that gives back what was printed finds where it ends. -/
theorem of_read {read : List Char → Option (α × List Char)}
    (hread : ∀ a r, read (f a ++ r) = some (a, r)) (a : α) : Delimits f a := by
  intro b r r' h
  have hboth : some (a, r) = some (b, r') := by rw [← hread a r, h, hread b r']
  have hpair := Option.some.inj hboth
  exact ⟨congrArg Prod.fst hpair, congrArg Prod.snd hpair⟩

/-- Two texts with fixed characters between them. -/
theorem pair {b : β} (ha : Delimits f a) (hb : Delimits g b) (between : List Char) :
    Delimits (fun p : α × β => f p.1 ++ between ++ g p.2) (a, b) := by
  intro p r r' h
  simp only [List.append_assoc] at h
  obtain ⟨hfirst, hrest⟩ := ha _ _ _ h
  obtain ⟨hsecond, hend⟩ := hb _ _ _ (List.append_cancel_left hrest)
  exact ⟨Prod.ext hfirst hsecond, hend⟩

theorem append_left (h : Delimits f a) (before : List Char) :
    Delimits (fun a => before ++ f a) a := by
  intro b r r' hab
  simp only [List.append_assoc] at hab
  exact h b r r' (List.append_cancel_left hab)

/-- Pieces in a row end at a character that starts none of them. -/
theorem flatMap_append_inj (hf : ∀ a ∈ l, Delimits f a) (hstop : ∀ a r r', f a ++ r ≠ stop :: r')
    (h : l.flatMap f ++ stop :: r = l'.flatMap f ++ stop :: r') : l = l' ∧ r = r' := by
  induction l generalizing l' with
  | nil =>
    cases l' with
    | nil => exact ⟨rfl, (List.cons.inj h).2⟩
    | cons b l' =>
      rw [List.flatMap_cons, List.append_assoc] at h
      exact absurd h.symm (hstop b _ r)
  | cons a l ih =>
    obtain ⟨ha, hl⟩ := List.forall_mem_cons.mp hf
    rw [List.flatMap_cons, List.append_assoc] at h
    cases l' with
    | nil => exact absurd h (hstop a _ r')
    | cons b l' =>
      rw [List.flatMap_cons, List.append_assoc] at h
      obtain ⟨rfl, hrest⟩ := ha _ _ _ h
      obtain ⟨rfl, hend⟩ := ih hl hrest
      exact ⟨rfl, hend⟩

/-- Items with separators end where no separator follows. -/
theorem intercalate_append_inj (hf : ∀ a ∈ l, Delimits f a) (hl : l ≠ []) (hl' : l' ≠ [])
    (hr : r.head? ≠ some sep) (hr' : r'.head? ≠ some sep)
    (h : [sep].intercalate (l.map f) ++ r = [sep].intercalate (l'.map f) ++ r') :
    l = l' ∧ r = r' := by
  induction l generalizing l' with
  | nil => exact absurd rfl hl
  | cons a l ih =>
    obtain ⟨ha, hrest⟩ := List.forall_mem_cons.mp hf
    obtain ⟨b, l', rfl⟩ := List.exists_cons_of_ne_nil hl'
    cases l with
    | nil =>
      cases l' with
      | nil =>
        obtain ⟨rfl, hend⟩ := ha b r r' (by simpa using h)
        exact ⟨rfl, hend⟩
      | cons b' l' =>
        have hend := (ha b r _ (by simpa using h)).2
        simp [hend] at hr
    | cons a' l =>
      cases l' with
      | nil =>
        have hend := (ha b _ r' (by simpa using h)).2
        simp [← hend] at hr'
      | cons b' l' =>
        obtain ⟨rfl, hend⟩ := ha b ([sep] ++ ([sep].intercalate ((a' :: l).map f) ++ r))
          ([sep] ++ ([sep].intercalate ((b' :: l').map f) ++ r')) (by simpa using h)
        obtain ⟨htail, hend⟩ := ih hrest (List.cons_ne_nil a' l) (List.cons_ne_nil b' l')
          (List.append_cancel_left hend)
        rw [htail]
        exact ⟨rfl, hend⟩

end Delimits

end AccessorGen
