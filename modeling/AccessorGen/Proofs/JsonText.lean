import AccessorGen.Proofs.Escapes

/-! Laid-out JSON shows where each value ends, so no two values have the same text. -/
namespace AccessorGen.Json

section Enclosed

variable {α : Type} {f : α → List Char} {opening closing : Char} {depth : Nat} {l l' : List α}
  {r r' : List Char}

/-- Items between brackets, with the closing one on a line of its own if there are any items. -/
def enclosed (opening closing : Char) (depth : Nat) (f : α → List Char) : List α → List Char
  | [] => [opening, closing]
  | a :: l => opening :: ([','].intercalate ((a :: l).map f) ++ (newline depth ++ [closing]))

/-- Each item begins a new line, and the bracket that closes an empty list does not. -/
theorem enclosed_cons_ne {a : α} (hline : ∀ a, ∃ t, f a = '\n' :: t) (hclosing : closing ≠ '\n') :
    enclosed opening closing depth f (a :: l) ++ r ≠
      enclosed opening closing depth f [] ++ r' := by
  obtain ⟨t, ht⟩ := hline a
  intro h
  cases l with
  | nil =>
    simp only [enclosed, List.map_cons, List.map_nil, List.intercalate_singleton, ht,
      List.cons_append, List.cons.injEq, true_and] at h
    exact hclosing h.1.symm
  | cons b l =>
    simp only [enclosed, List.map_cons, List.intercalate_cons_cons, ht, List.cons_append,
      List.cons.injEq, true_and] at h
    exact hclosing h.1.symm

theorem enclosed_append_inj (hf : ∀ a ∈ l, Delimits f a) (hline : ∀ a, ∃ t, f a = '\n' :: t)
    (hclosing : closing ≠ '\n')
    (h : enclosed opening closing depth f l ++ r = enclosed opening closing depth f l' ++ r') :
    l = l' ∧ r = r' := by
  cases l with
  | nil =>
    cases l' with
    | nil => exact ⟨rfl, List.append_cancel_left h⟩
    | cons a' l' => exact absurd h.symm (enclosed_cons_ne hline hclosing)
  | cons a l =>
    cases l' with
    | nil => exact absurd h (enclosed_cons_ne hline hclosing)
    | cons a' l' =>
      simp only [enclosed, List.cons_append, List.append_assoc, List.cons.injEq, true_and] at h
      have hcomma (t : List Char) : (newline depth ++ t).head? ≠ some ',' := by simp [newline]
      obtain ⟨hitems, hend⟩ := Delimits.intercalate_append_inj hf (List.cons_ne_nil a l)
        (List.cons_ne_nil a' l') (hcomma _) (hcomma _) h
      have hend := List.append_cancel_left hend
      exact ⟨hitems, (List.cons.inj hend).2⟩

end Enclosed

variable {depth : Nat} {j j' : Json} {r r' : List Char}

/-- An item of an array, on a line of its own. -/
def prettyItem (depth : Nat) (j : Json) : List Char :=
  newline depth ++ prettyChars depth j

def prettyMember (depth : Nat) (m : String × Json) : List Char :=
  newline depth ++ (quote m.1 ++ [':', ' '] ++ prettyChars depth m.2)

theorem prettyItems_eq (depth : Nat) (js : List Json) :
    prettyItems depth js = [','].intercalate (js.map (prettyItem depth)) := by
  induction js with
  | nil => rfl
  | cons j js ih =>
    cases js with
    | nil => simp [prettyItems, prettyItem]
    | cons j' js =>
      rw [prettyItems, ih]
      · simp [prettyItem]
      · exact List.cons_ne_nil j' js

theorem prettyMembers_eq (depth : Nat) (ms : List (String × Json)) :
    prettyMembers depth ms = [','].intercalate (ms.map (prettyMember depth)) := by
  induction ms with
  | nil => rfl
  | cons m ms ih =>
    cases ms with
    | nil => simp [prettyMembers, prettyMember]
    | cons m' ms =>
      rw [prettyMembers, ih]
      · simp [prettyMember]
      · exact List.cons_ne_nil m' ms

theorem prettyChars_array (js : List Json) :
    prettyChars depth (array js) = enclosed '[' ']' depth (prettyItem (depth + 1)) js := by
  cases js with
  | nil => rfl
  | cons j js => simp [prettyChars, prettyItems_eq, enclosed]

theorem prettyChars_object (ms : List (String × Json)) : prettyChars depth (object ms) =
    enclosed '\x7b' '\x7d' depth (prettyMember (depth + 1)) ms := by
  cases ms with
  | nil => rfl
  | cons m ms => simp [prettyChars, prettyMembers_eq, enclosed]

/-- The first character of a value tells its kind. -/
def opening : Json → Char
  | string _ => '"'
  | array _ => '['
  | object _ => '\x7b'

theorem head?_prettyChars (depth : Nat) (j : Json) :
    (prettyChars depth j).head? = some j.opening := by
  cases j with
  | string s => rfl
  | array js => cases js <;> rfl
  | object ms => cases ms <;> rfl

theorem opening_eq (h : prettyChars depth j ++ r = prettyChars depth j' ++ r') :
    j.opening = j'.opening := by
  have hhead := congrArg List.head? h
  simpa [List.head?_append, head?_prettyChars] using hhead

theorem delimits_string (s : String) : Delimits (prettyChars depth) (string s) := by
  intro j' r r' h
  have hopening := opening_eq h
  cases j' with
  | string s' =>
    obtain ⟨rfl, hr⟩ := delimits_quote s s' r r' h
    exact ⟨rfl, hr⟩
  | array js' => cases hopening
  | object ms' => cases hopening

theorem delimits_array {js : List Json} (hjs : ∀ j ∈ js, Delimits (prettyItem (depth + 1)) j) :
    Delimits (prettyChars depth) (array js) := by
  intro j' r r' h
  have hopening := opening_eq h
  cases j' with
  | string s' => cases hopening
  | array js' =>
    rw [prettyChars_array, prettyChars_array] at h
    obtain ⟨rfl, hr⟩ := enclosed_append_inj hjs (fun j => ⟨_, rfl⟩) (by decide) h
    exact ⟨rfl, hr⟩
  | object ms' => cases hopening

theorem delimits_object {ms : List (String × Json)}
    (hms : ∀ m ∈ ms, Delimits (prettyMember (depth + 1)) m) :
    Delimits (prettyChars depth) (object ms) := by
  intro j' r r' h
  have hopening := opening_eq h
  cases j' with
  | string s' => cases hopening
  | array js' => cases hopening
  | object ms' =>
    rw [prettyChars_object, prettyChars_object] at h
    obtain ⟨rfl, hr⟩ := enclosed_append_inj hms (fun m => ⟨_, rfl⟩) (by decide) h
    exact ⟨rfl, hr⟩

mutual

theorem delimits_prettyChars : ∀ (depth : Nat) (j : Json), Delimits (prettyChars depth) j
  | _, string s => delimits_string s
  | depth, array js => delimits_array (delimits_prettyItems (depth + 1) js)
  | depth, object ms => delimits_object (delimits_prettyMembers (depth + 1) ms)

theorem delimits_prettyItems :
    ∀ (depth : Nat) (js : List Json), ∀ j ∈ js, Delimits (prettyItem depth) j
  | _, [] => List.forall_mem_nil _
  | depth, j :: js => List.forall_mem_cons.mpr
      ⟨(delimits_prettyChars depth j).append_left _, delimits_prettyItems depth js⟩

theorem delimits_prettyMembers :
    ∀ (depth : Nat) (ms : List (String × Json)), ∀ m ∈ ms, Delimits (prettyMember depth) m
  | _, [] => List.forall_mem_nil _
  | depth, (k, j) :: ms => List.forall_mem_cons.mpr
      ⟨((delimits_quote k).pair (delimits_prettyChars depth j) _).append_left _,
        delimits_prettyMembers depth ms⟩

end

theorem pretty_injective (h : j.pretty = j'.pretty) : j = j' :=
  (delimits_prettyChars 0 j).eq_of_eq (String.ofList_injective h)

end AccessorGen.Json
