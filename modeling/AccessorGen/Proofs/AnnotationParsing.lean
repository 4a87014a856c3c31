import AccessorGen.AnnotationUse
import AccessorGen.Proofs.ArgumentGrammar
import AccessorGen.Proofs.QualifiedName

/-! Which texts are annotations, and what is wrong with each of the others. -/
namespace AccessorGen.AnnotationUse

variable {text : String} {s body g rest : List Char} {n : QualifiedName}
  {cause : QualifiedName.ParseError}

/-- The written name of an annotation's type: what stands before the first parenthesis. -/
def writtenName (body : List Char) : String :=
  String.ofList (Text.trimEnd (body.takeWhile (· ≠ '(')))

/-- The arguments from their first parenthesis on. There are none without one. -/
def writtenArguments (body : List Char) : List Char :=
  body.dropWhile (· ≠ '(')

theorem writtenArguments_eq (body : List Char) :
    writtenArguments body = [] ∨ ∃ s, writtenArguments body = '(' :: s := by
  cases h : writtenArguments body with
  | nil => exact Or.inl rfl
  | cons c s =>
    have hhead := List.head?_dropWhile_not (· ≠ '(') body
    rw [show body.dropWhile _ = c :: s from h] at hhead
    have hc : c = '(' := by simpa using hhead
    exact Or.inr ⟨s, by rw [hc]⟩

theorem all_ne_open {name : List Char} (hname : '(' ∉ name) :
    ∀ c ∈ name, decide (c ≠ '(') = true := by
  intro c hc
  rw [decide_eq_true_eq]
  rintro rfl
  exact hname hc

theorem takeWhile_ne_open {name : List Char} (hname : '(' ∉ name) (s : List Char) :
    (name ++ '(' :: s).takeWhile (· ≠ '(') = name := by
  rw [List.takeWhile_append_of_pos (all_ne_open hname)]
  simp

theorem writtenArguments_append {name : List Char} (hname : '(' ∉ name) (s : List Char) :
    writtenArguments (name ++ '(' :: s) = '(' :: s := by
  have hsplit := List.takeWhile_append_dropWhile (p := (· ≠ '(')) (l := name ++ '(' :: s)
  rw [takeWhile_ne_open hname] at hsplit
  exact List.append_cancel_left hsplit

/-- The cut is made at a byte offset, and falls where the first parenthesis stands. -/
theorem splitArguments_eq (body : List Char) : splitArguments body =
    (body.takeWhile (· ≠ '('),
      if '(' ∈ body then some (writtenArguments body) else none) := by
  unfold splitArguments Text.offsetOf?
  by_cases hmem : '(' ∈ body
  · have hcut := Text.splitAtByte?_byteLength (body.takeWhile (· ≠ '(')) (writtenArguments body)
    rw [writtenArguments, List.takeWhile_append_dropWhile] at hcut
    simp only [if_pos hmem, Option.bind_some, hcut]
    rfl
  · have hall : body.takeWhile (· ≠ '(') = body :=
      List.takeWhile_eq_self_iff.mpr (all_ne_open hmem)
    simp only [if_neg hmem, Option.bind_none, hall]

theorem mem_iff_writtenArguments_ne_nil : '(' ∈ body ↔ writtenArguments body ≠ [] := by
  rw [writtenArguments, Ne, List.dropWhile_eq_nil_iff]
  simp

/-- Behind the at sign come the checks of the type and, if there are arguments, of these. -/
theorem parse_of_body (h : Text.trim text.toList = '@' :: body) : parse text =
    (parseType (body.takeWhile (· ≠ '('))).bind fun n =>
      if writtenArguments body = [] then .ok ⟨n, String.ofList ('@' :: body)⟩
      else (checkArguments (writtenArguments body)).map fun _ =>
        ⟨n, String.ofList ('@' :: body)⟩ := by
  unfold parse
  rw [h]
  simp only [splitArguments_eq, mem_iff_writtenArguments_ne_nil]
  cases parseType (body.takeWhile (· ≠ '(')) with
  | error e => rfl
  | ok n =>
    by_cases hargs : writtenArguments body = []
    · rw [if_neg (not_not_intro hargs)]
      simp only [hargs]
      rfl
    · rw [if_pos hargs]
      simp only [hargs, Except.bind]
      cases hcheck : checkArguments (writtenArguments body) with
      | error e => simp [hcheck, bind, Except.bind, Except.map]
      | ok => simp [hcheck, bind, Except.bind, Except.map, pure, Except.pure]

theorem parseType_of_error (h : QualifiedName.parse (writtenName body) = .error cause) :
    parseType (body.takeWhile (· ≠ '(')) = .error (.invalidType cause) := by
  rw [writtenName] at h
  rw [parseType, h]

theorem parseType_of_unqualified (h : QualifiedName.parse (writtenName body) = .ok n)
    (hp : n.package = "") :
    parseType (body.takeWhile (· ≠ '(')) = .error (.unqualified (writtenName body)) := by
  have hname := QualifiedName.simpleName_of_parse h hp
  rw [writtenName] at h
  rw [parseType, h]
  simp [hp, hname]

theorem parseType_of_qualified (h : QualifiedName.parse (writtenName body) = .ok n)
    (hp : n.package ≠ "") : parseType (body.takeWhile (· ≠ '(')) = .ok n := by
  rw [writtenName] at h
  rw [parseType, h]
  simp [hp]

theorem checkArguments_of_none (h : ∀ g, g <+: '(' :: s → ¬ Group g) :
    checkArguments ('(' :: s) = .error .unbalancedParens := by
  rw [checkArguments, afterClosing?_eq_none_iff.mpr h]

theorem body_eq_append (hargs : writtenArguments body = g ++ rest) :
    '@' :: body = ('@' :: body.takeWhile (· ≠ '(') ++ g) ++ rest := by
  rw [List.cons_append, List.cons_append, List.append_assoc, ← hargs, writtenArguments,
    List.takeWhile_append_dropWhile]

/-- The body of a trimmed annotation ends with no blank, so what follows a group in it is blank
only if it is empty. -/
theorem checkArguments_of_group (h : Text.trim text.toList = '@' :: body)
    (hargs : writtenArguments body = g ++ rest) (hg : Group g) :
    checkArguments (writtenArguments body) =
      if rest = [] then .ok ()
      else .error (.trailingText (String.ofList (Text.trim rest))) := by
  rw [hargs, checkArguments, afterClosing?_group hg]
  by_cases hrest : rest = []
  · subst rest
    rfl
  · have hkept := Text.trim_ne_nil_of_append (h.trans (body_eq_append hargs)) hrest
    simp [hrest, hkept]

theorem parse_of_qualified (h : Text.trim text.toList = '@' :: body)
    (hn : QualifiedName.parse (writtenName body) = .ok n) (hp : n.package ≠ "") :
    parse text =
      if writtenArguments body = [] then .ok ⟨n, String.ofList ('@' :: body)⟩
      else (checkArguments (writtenArguments body)).map fun _ =>
        ⟨n, String.ofList ('@' :: body)⟩ := by
  rw [parse_of_body h, parseType_of_qualified hn hp]
  rfl

/-- Behind a qualified name there are no arguments, or arguments that start with no group, or a
group alone, or a group and more. -/
theorem parse_qualified_cases (h : Text.trim text.toList = '@' :: body)
    (hn : QualifiedName.parse (writtenName body) = .ok n) (hp : n.package ≠ "") :
    (writtenArguments body = [] ∧ parse text = .ok ⟨n, String.ofList ('@' :: body)⟩) ∨
    (writtenArguments body ≠ [] ∧ (∀ g, g <+: writtenArguments body → ¬ Group g) ∧
      parse text = .error .unbalancedParens) ∨
    (Group (writtenArguments body) ∧ parse text = .ok ⟨n, String.ofList ('@' :: body)⟩) ∨
    ∃ g rest, Group g ∧ writtenArguments body = g ++ rest ∧ rest ≠ [] ∧
      parse text = .error (.trailingText (String.ofList (Text.trim rest))) := by
  rw [parse_of_qualified h hn hp]
  by_cases hnil : writtenArguments body = []
  · exact Or.inl ⟨hnil, by rw [if_pos hnil]⟩
  right
  rw [if_neg hnil]
  obtain ⟨s, hs⟩ := (writtenArguments_eq body).resolve_left hnil
  by_cases hpre : ∃ g, g <+: writtenArguments body ∧ Group g
  · obtain ⟨g, ⟨rest, hargs⟩, hg⟩ := hpre
    right
    rw [checkArguments_of_group h hargs.symm hg]
    by_cases hrest : rest = []
    · subst rest
      rw [List.append_nil] at hargs
      exact Or.inl ⟨hargs ▸ hg, rfl⟩
    · refine Or.inr ⟨g, rest, hg, hargs.symm, hrest, ?_⟩
      rw [if_neg hrest]
      rfl
  · have hnone : ∀ g, g <+: writtenArguments body → ¬ Group g := by
      intro g hg hgroup
      exact hpre ⟨g, hg, hgroup⟩
    refine Or.inl ⟨hnil, hnone, ?_⟩
    rw [hs] at hnone ⊢
    rw [checkArguments_of_none hnone]
    rfl

/-- The type is checked before the arguments: only a qualified one lets their faults be seen. -/
theorem parse_body_cases (h : Text.trim text.toList = '@' :: body) :
    (∃ cause, QualifiedName.parse (writtenName body) = .error cause ∧
      parse text = .error (.invalidType cause)) ∨
    (∃ n, QualifiedName.parse (writtenName body) = .ok n ∧ n.package = "" ∧
      parse text = .error (.unqualified (writtenName body))) ∨
    ∃ n, QualifiedName.parse (writtenName body) = .ok n ∧ n.package ≠ "" ∧
      (parse text = .ok ⟨n, String.ofList ('@' :: body)⟩ ∨
        parse text = .error .unbalancedParens ∨ ∃ r, parse text = .error (.trailingText r)) := by
  cases hname : QualifiedName.parse (writtenName body) with
  | error cause =>
    refine Or.inl ⟨cause, rfl, ?_⟩
    rw [parse_of_body h, parseType_of_error hname]
    rfl
  | ok n =>
    by_cases hp : n.package = ""
    · refine Or.inr (Or.inl ⟨n, rfl, hp, ?_⟩)
      rw [parse_of_body h, parseType_of_unqualified hname hp]
      rfl
    · refine Or.inr (Or.inr ⟨n, rfl, hp, ?_⟩)
      rcases parse_qualified_cases h hname hp with ⟨_, hparse⟩ | ⟨_, _, hparse⟩ | ⟨_, hparse⟩ |
        ⟨_, _, _, _, _, hparse⟩
      · exact Or.inl hparse
      · exact Or.inr (Or.inl hparse)
      · exact Or.inl hparse
      · exact Or.inr (Or.inr ⟨_, hparse⟩)

theorem parse_missingAt_iff :
    parse text = .error .missingAt ↔ (Text.trim text.toList).head? ≠ some '@' := by
  cases h : Text.trim text.toList with
  | nil => simp [parse, h]
  | cons c body =>
    by_cases hc : c = '@'
    · subst c
      rcases parse_body_cases h with ⟨_, _, hparse⟩ | ⟨_, _, _, hparse⟩ |
        ⟨_, _, _, hparse | hparse | ⟨_, hparse⟩⟩ <;> simp [hparse]
    · simp only [List.head?_cons, ne_eq, Option.some.injEq, hc, not_false_eq_true, iff_true]
      unfold parse
      rw [h]
      split
      next heq => exact absurd (List.cons.inj heq).1 hc
      next => rfl

theorem parse_invalidType_iff (h : Text.trim text.toList = '@' :: body) :
    parse text = .error (.invalidType cause) ↔
      QualifiedName.parse (writtenName body) = .error cause := by
  rcases parse_body_cases h with ⟨_, hname, hparse⟩ | ⟨_, hname, _, hparse⟩ |
    ⟨_, hname, _, hparse | hparse | ⟨_, hparse⟩⟩ <;> simp [hparse, hname]

theorem parse_unqualified_iff (h : Text.trim text.toList = '@' :: body) {name : String} :
    parse text = .error (.unqualified name) ↔ name = writtenName body ∧
      ∃ n, QualifiedName.parse (writtenName body) = .ok n ∧ n.package = "" := by
  rcases parse_body_cases h with ⟨_, hname, hparse⟩ | ⟨n, hname, hp, hparse⟩ |
    ⟨_, hname, hp, hparse | hparse | ⟨_, hparse⟩⟩
  case inr.inl =>
    rw [hparse, hname]
    constructor
    · intro heq
      cases heq
      exact ⟨rfl, n, rfl, hp⟩
    · rintro ⟨rfl, _⟩
      rfl
  all_goals simp [hparse, hname]
  all_goals exact fun _ => hp

section Arguments

variable (h : Text.trim text.toList = '@' :: body)
  (hn : QualifiedName.parse (writtenName body) = .ok n) (hp : n.package ≠ "")

include h hn hp

theorem parse_unbalancedParens_iff : parse text = .error .unbalancedParens ↔
    writtenArguments body ≠ [] ∧ ∀ g, g <+: writtenArguments body → ¬ Group g := by
  rcases parse_qualified_cases h hn hp with ⟨hnil, hparse⟩ | ⟨hne, hnone, hparse⟩ |
    ⟨hg, hparse⟩ | ⟨g, rest, hg, hargs, _, hparse⟩ <;> rw [hparse]
  · simp [hnil]
  · exact ⟨fun _ => ⟨hne, hnone⟩, fun _ => rfl⟩
  · simp only [reduceCtorEq, false_iff]
    rintro ⟨_, hnone⟩
    exact hnone _ (List.prefix_refl _) hg
  · simp only [Except.error.injEq, reduceCtorEq, false_iff]
    rintro ⟨_, hnone⟩
    exact hnone g ⟨rest, hargs.symm⟩ hg

theorem parse_trailingText_iff {r : String} : parse text = .error (.trailingText r) ↔
    ∃ g rest, Group g ∧ writtenArguments body = g ++ rest ∧ rest ≠ [] ∧
      r = String.ofList (Text.trim rest) := by
  rcases parse_qualified_cases h hn hp with ⟨hnil, hparse⟩ | ⟨_, hnone, hparse⟩ |
    ⟨hg, hparse⟩ | ⟨g, rest, hg, hargs, hrest, hparse⟩ <;> rw [hparse]
  · simp only [reduceCtorEq, false_iff]
    rintro ⟨g, rest, _, hargs, hrest, _⟩
    exact hrest (List.append_eq_nil_iff.mp (hargs.symm.trans hnil)).2
  · simp only [Except.error.injEq, reduceCtorEq, false_iff]
    rintro ⟨g, rest, hg, hargs, _⟩
    exact hnone g ⟨rest, hargs.symm⟩ hg
  · simp only [reduceCtorEq, false_iff]
    rintro ⟨g, rest, hg', hargs, hrest, _⟩
    exact hrest (hg.append_inj hg' ((List.append_nil _).trans hargs)).2.symm
  · constructor
    · intro heq
      cases heq
      exact ⟨g, rest, hg, hargs, hrest, rfl⟩
    · rintro ⟨g', rest', hg', hargs', _, rfl⟩
      obtain ⟨_, rfl⟩ := hg.append_inj hg' (hargs.symm.trans hargs')
      rfl

theorem parse_ok_iff {a : AnnotationUse} : parse text = .ok a ↔
    (writtenArguments body = [] ∨ Group (writtenArguments body)) ∧
      a = ⟨n, String.ofList ('@' :: body)⟩ := by
  rcases parse_qualified_cases h hn hp with ⟨hnil, hparse⟩ | ⟨hne, hnone, hparse⟩ |
    ⟨hg, hparse⟩ | ⟨g, rest, hg, hargs, hrest, hparse⟩ <;> rw [hparse]
  · simp only [hnil, true_or, true_and, Except.ok.injEq]
    exact eq_comm
  · simp only [reduceCtorEq, false_iff]
    rintro ⟨hnil | hg, _⟩
    · exact hne hnil
    · exact hnone _ (List.prefix_refl _) hg
  · simp only [hg, or_true, true_and, Except.ok.injEq]
    exact eq_comm
  · simp only [reduceCtorEq, false_iff]
    rintro ⟨hnil | hg', _⟩
    · exact hrest (List.append_eq_nil_iff.mp (hargs.symm.trans hnil)).2
    · exact hrest (hg'.append_inj hg ((List.append_nil _).trans hargs)).2.symm

/-- A trimmed annotation ends with no blank, so what is reported behind its arguments is not
empty. -/
theorem trailingText_ne_empty {r : String} (herr : parse text = .error (.trailingText r)) :
    r ≠ "" := by
  obtain ⟨g, rest, _, hargs, hrest, rfl⟩ := (parse_trailingText_iff h hn hp).mp herr
  have hkept := Text.trim_ne_nil_of_append (h.trans (body_eq_append hargs)) hrest
  simpa using hkept

end Arguments

/-- A qualified name with a group behind it is an annotation as it stands. -/
theorem parse_name_append_group {name : List Char} (hopen : '(' ∉ name)
    (hn : QualifiedName.parse (String.ofList (Text.trimEnd name)) = .ok n) (hp : n.package ≠ "")
    (hg : Group g) : parse (String.ofList ('@' :: (name ++ g))) =
      .ok ⟨n, String.ofList ('@' :: (name ++ g))⟩ := by
  have htrim : Text.trim (String.ofList ('@' :: (name ++ g))).toList = '@' :: (name ++ g) := by
    rw [String.toList_ofList]
    apply Text.trim_eq_self
    · rintro c ⟨⟩
      decide
    · intro c hc
      obtain ⟨items, _, rfl⟩ := hg
      have hlast : c = ')' := by
        simpa [List.getLast?_cons, List.getLast?_append] using hc.symm
      subst c
      decide
  obtain ⟨s, rfl⟩ := hg.eq_cons
  have hwritten : writtenName (name ++ '(' :: s) = String.ofList (Text.trimEnd name) := by
    rw [writtenName, takeWhile_ne_open hopen]
  rw [parse_ok_iff htrim (hwritten ▸ hn) hp, writtenArguments_append hopen]
  exact ⟨Or.inr hg, rfl⟩

theorem literal_of_parse {a : AnnotationUse} (ha : parse text = .ok a) :
    a.literal = String.ofList (Text.trim text.toList) := by
  by_cases hat : (Text.trim text.toList).head? = some '@'
  · obtain ⟨body, hbody⟩ := List.head?_eq_some_iff.mp hat
    rcases parse_body_cases hbody with ⟨_, _, hparse⟩ | ⟨_, _, _, hparse⟩ |
      ⟨n, hn, hp, _⟩
    · rw [hparse] at ha
      cases ha
    · rw [hparse] at ha
      cases ha
    · obtain ⟨_, rfl⟩ := (parse_ok_iff hbody hn hp).mp ha
      rw [hbody]
  · rw [parse_missingAt_iff.mpr hat] at ha
    cases ha

/-- Reading looks at the trimmed text only, and that is what it keeps. -/
theorem parse_literal {a : AnnotationUse} (ha : parse text = .ok a) :
    parse a.literal = .ok a := by
  rw [literal_of_parse ha, ← ha]
  unfold parse
  rw [String.toList_ofList, Text.trim_trim]

/-- Reading an annotation decides its grammar: each fault is reported exactly where the text has
it, the faults of the type before those of the arguments, and all other texts are kept as they
are. A text starts with at most one group, so there is one place where arguments can end. -/
theorem parse_classification (text : String) :
    (parse text = .error .missingAt ↔ (Text.trim text.toList).head? ≠ some '@') ∧
    (∀ body, Text.trim text.toList = '@' :: body →
      (∀ cause, parse text = .error (.invalidType cause) ↔
        QualifiedName.parse (writtenName body) = .error cause) ∧
      (∀ name, parse text = .error (.unqualified name) ↔ name = writtenName body ∧
        ∃ n, QualifiedName.parse (writtenName body) = .ok n ∧ n.package = "") ∧
      ∀ n, QualifiedName.parse (writtenName body) = .ok n → n.package ≠ "" →
        (parse text = .error .unbalancedParens ↔
          writtenArguments body ≠ [] ∧ ∀ g, g <+: writtenArguments body → ¬ Group g) ∧
        (∀ r, parse text = .error (.trailingText r) ↔
          ∃ g rest, Group g ∧ writtenArguments body = g ++ rest ∧ rest ≠ [] ∧
            r = String.ofList (Text.trim rest)) ∧
        (∀ r, parse text = .error (.trailingText r) → r ≠ "") ∧
        ∀ a, parse text = .ok a ↔
          (writtenArguments body = [] ∨ Group (writtenArguments body)) ∧
            a = ⟨n, String.ofList (Text.trim text.toList)⟩) ∧
    ∀ s g g', Group g → Group g' → g <+: s → g' <+: s → g = g' := by
  refine ⟨parse_missingAt_iff, ?_, ?_⟩
  · intro body h
    refine ⟨fun cause => parse_invalidType_iff h, fun name => parse_unqualified_iff h, ?_⟩
    intro n hn hp
    rw [h]
    exact ⟨parse_unbalancedParens_iff h hn hp, fun r => parse_trailingText_iff h hn hp,
      fun r => trailingText_ne_empty h hn hp, fun a => parse_ok_iff h hn hp⟩
  · rintro s g g' hg hg' ⟨t, rfl⟩ ⟨t', ht'⟩
    exact (hg'.append_inj hg ht').1.symm

-- The first closing parenthesis stands in a literal. The second one ends the arguments.
example : parse " @a.Doc(\")(\") x " = .error (.trailingText "x") := by rfl

end AccessorGen.AnnotationUse
