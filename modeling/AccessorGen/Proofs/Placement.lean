import AccessorGen.Proofs.Rearrangement

/-! Two drafts with the same texts at other places. Checking them comes to the same, step by step,
and what it reports of the one it reports of the other at the same texts. -/
namespace AccessorGen.Manifest

open List (Forall₂)

variable {α β κ : Type}

/-- Which text of a draft is meant, by its number in each list on the way to it. -/
inductive Path where
  | source
  | typeName (type : Nat)
  | typeAnnotationUse (type use : Nat)
  | accessorName (type accessor : Nat)
  | returnType (type accessor : Nat)
  | accessorAnnotationUse (type accessor use : Nat)

def Draft.accessor? (d : Draft) (type accessor : Nat) : Option AccessorDraft :=
  d.types[type]?.bind (·.accessors[accessor]?)

def Draft.text? (d : Draft) : Path → Option (Spanned String)
  | .source => d.source
  | .typeName t => d.types[t]?.map TypeDraft.name
  | .typeAnnotationUse t k => d.types[t]?.bind (·.annotations[k]?)
  | .accessorName t a => (d.accessor? t a).map AccessorDraft.name
  | .returnType t a => (d.accessor? t a).map AccessorDraft.returnType
  | .accessorAnnotationUse t a k => (d.accessor? t a).bind (·.annotations[k]?)

/-- The places of one text in two drafts. -/
def SamePath (d e : Draft) (s s' : Span) : Prop :=
  ∃ p x y, d.text? p = some x ∧ e.text? p = some y ∧ x.span = s ∧ y.span = s'

/-- The fault without its places. -/
def Fault.erase : Fault → Fault
  | sourceVersion _ cause => sourceVersion ⟨0, 0⟩ cause
  | typeName name cause => typeName (unplaced name.value) cause
  | annotationUse _ cause => annotationUse ⟨0, 0⟩ cause
  | accessorName name cause => accessorName (unplaced name.value) cause
  | blankReturnType _ => blankReturnType ⟨0, 0⟩
  | duplicateType name _ _ => duplicateType name ⟨0, 0⟩ ⟨0, 0⟩
  | duplicateAccessor type name _ _ => duplicateAccessor type name ⟨0, 0⟩ ⟨0, 0⟩
  | duplicateProperty type property _ _ => duplicateProperty type property ⟨0, 0⟩ ⟨0, 0⟩

section Alike

/-! Nothing needs to be known of how places correspond, as long as they do so text by text. -/

variable (same : Span → Span → Prop)

structure TextsAlike (x y : Spanned String) : Prop where
  value : x.value = y.value
  span : same x.span y.span

structure AccessorDraft.Alike (d e : AccessorDraft) : Prop where
  name : TextsAlike same d.name e.name
  returnType : TextsAlike same d.returnType e.returnType
  annotations : Forall₂ (TextsAlike same) d.annotations e.annotations

structure TypeDraft.Alike (d e : TypeDraft) : Prop where
  name : TextsAlike same d.name e.name
  annotations : Forall₂ (TextsAlike same) d.annotations e.annotations
  accessors : Forall₂ (AccessorDraft.Alike same) d.accessors e.accessors

structure Draft.Alike (d e : Draft) : Prop where
  source : Option.Rel (TextsAlike same) d.source e.source
  types : Forall₂ (TypeDraft.Alike same) d.types e.types

/-- What has been seen of the one and of the other draft. -/
structure RecordsAlike (p q : κ × Span) : Prop where
  key : p.1 = q.1
  span : same p.2 q.2

structure Fault.Alike (f g : Fault) : Prop where
  erase : f.erase = g.erase
  spans : Forall₂ same (f.labels.map Label.span) (g.labels.map Label.span)

/-- Both end with the same result, or with faults that are alike. -/
inductive Agree : Except Fault α → Except Fault α → Prop
  | ok (a : α) : Agree (.ok a) (.ok a)
  | error {f g : Fault} (h : f.Alike same g) : Agree (.error f) (.error g)

end Alike

variable {same : Span → Span → Prop}

section Agree

variable {x y : Except Fault α}

theorem Agree.bind {k k' : α → Except Fault β} (h : Agree same x y)
    (hk : ∀ a, Agree same (k a) (k' a)) : Agree same (x >>= k) (y >>= k') := by
  cases h with
  | ok a => exact hk a
  | error h => exact .error h

theorem agree_mapError {ε : Type} {report report' : ε → Fault} (x : Except ε α)
    (h : ∀ e, (report e).Alike same (report' e)) :
    Agree same (x.mapError report) (x.mapError report') := by
  cases x with
  | error e => exact .error (h e)
  | ok a => exact .ok a

theorem agree_refuse {o p : Option Fault} (h : Option.Rel (Fault.Alike same) o p) :
    Agree same (refuse o) (refuse p) := by
  cases h with
  | none => exact .ok ()
  | some h => exact .error h

theorem agree_mapM {γ : Type} {R : α → β → Prop} {check : α → Except Fault γ}
    {check' : β → Except Fault γ} {l : List α} {r : List β} (h : Forall₂ R l r)
    (hcheck : ∀ a b, R a b → Agree same (check a) (check' b)) :
    Agree same (l.mapM check) (r.mapM check') := by
  induction h with
  | nil => exact .ok []
  | cons hab _ ih =>
    simp only [List.mapM_cons]
    apply (hcheck _ _ hab).bind
    intro c
    apply ih.bind
    intro cs
    exact .ok _

theorem agree_optionMapM {γ : Type} {R : α → β → Prop} {check : α → Except Fault γ}
    {check' : β → Except Fault γ} {o : Option α} {p : Option β} (h : Option.Rel R o p)
    (hcheck : ∀ a b, R a b → Agree same (check a) (check' b)) :
    Agree same (o.mapM check) (p.mapM check') := by
  cases h with
  | none => exact .ok none
  | some hab => exact (hcheck _ _ hab).bind fun c => .ok (some c)

end Agree

section Records

variable [DecidableEq κ] {seen seen' l l' : List (κ × Span)}

theorem rel_map {γ δ : Type} {R : α → β → Prop} {S : γ → δ → Prop} {f : α → γ} {g : β → δ}
    {o : Option α} {p : Option β} (h : Option.Rel R o p) (hfg : ∀ a b, R a b → S (f a) (g b)) :
    Option.Rel S (o.map f) (p.map g) := by
  cases h with
  | none => exact .none
  | some hab => exact .some (hfg _ _ hab)

theorem earlier?_alike (h : Forall₂ (RecordsAlike same) seen seen') (k : κ) :
    Option.Rel same (earlier? seen k) (earlier? seen' k) := by
  induction h with
  | nil => exact .none
  | @cons p q _ _ hpq _ ih =>
    simp only [earlier?] at ih ⊢
    by_cases hk : q.1 = k
    · simpa [hpq.key, hk] using Option.Rel.some hpq.span
    · simpa [hpq.key, hk] using ih

/-- The same key is found again, and the same two items have it. -/
theorem repeated?_alike (hseen : Forall₂ (RecordsAlike same) seen seen')
    (h : Forall₂ (RecordsAlike same) l l') :
    Option.Rel (fun r r' => r.1 = r'.1 ∧ same r.2.1 r'.2.1 ∧ same r.2.2 r'.2.2)
      (repeated? seen l) (repeated? seen' l') := by
  induction h generalizing seen seen' with
  | nil => exact .none
  | @cons p q _ _ hpq _ ih =>
    obtain ⟨k, s⟩ := p
    obtain ⟨k', s'⟩ := q
    obtain ⟨rfl, hs⟩ := hpq
    have hearlier := earlier?_alike hseen k
    rw [repeated?, repeated?]
    generalize earlier? seen k = o, earlier? seen' k = o' at hearlier
    cases hearlier with
    | none => exact ih (.cons ⟨rfl, hs⟩ hseen)
    | some hfirst => exact .some ⟨rfl, hfirst, hs⟩

end Records

section Checks

theorem agree_checkSource {x y : Spanned String} (h : TextsAlike same x y) :
    Agree same (checkSource x) (checkSource y) := by
  rw [checkSource, checkSource, h.value]
  apply agree_mapError
  intro cause
  exact ⟨rfl, .cons h.span .nil⟩

theorem agree_checkAnnotationUse {x y : Spanned String} (h : TextsAlike same x y) :
    Agree same (checkAnnotationUse x) (checkAnnotationUse y) := by
  rw [checkAnnotationUse, checkAnnotationUse, h.value]
  apply agree_mapError
  intro cause
  exact ⟨rfl, .cons h.span .nil⟩

theorem agree_checkAnnotationUses {l r : List (Spanned String)}
    (h : Forall₂ (TextsAlike same) l r) :
    Agree same (l.mapM checkAnnotationUse) (r.mapM checkAnnotationUse) :=
  agree_mapM h fun _ _ => agree_checkAnnotationUse

section Accessors

variable {a b : AccessorDraft} {seen seen' : List (String × Span)}

theorem agree_checkAccessor (type : QualifiedName) (h : a.Alike same b)
    (hseen : Forall₂ (RecordsAlike same) seen seen') :
    Agree same (checkAccessor type seen a) (checkAccessor type seen' b) := by
  have hname : Agree same
      (refuse ((Identifier.fault? a.name.value).map (.accessorName a.name)))
      (refuse ((Identifier.fault? b.name.value).map (.accessorName b.name))) := by
    apply agree_refuse
    rw [h.name.value]
    cases Identifier.fault? b.name.value with
    | none => exact .none
    | some cause =>
      refine .some ⟨?_, .cons h.name.span .nil⟩
      simp [Fault.erase, h.name.value]
  have hnew : Agree same
      (refuse ((earlier? seen a.name.value).map
        (.duplicateAccessor type a.name.value · a.name.span)))
      (refuse ((earlier? seen' b.name.value).map
        (.duplicateAccessor type b.name.value · b.name.span))) := by
    apply agree_refuse
    rw [h.name.value]
    apply rel_map (earlier?_alike hseen _)
    intro first first' hfirst
    exact ⟨rfl, .cons hfirst (.cons h.name.span .nil)⟩
  have htype : Agree same
      (refuse (if isBlank a.returnType.value then some (.blankReturnType a.returnType.span)
        else none))
      (refuse (if isBlank b.returnType.value then some (.blankReturnType b.returnType.span)
        else none)) := by
    apply agree_refuse
    rw [h.returnType.value]
    cases isBlank b.returnType.value with
    | false => exact .none
    | true => exact .some ⟨rfl, .cons h.returnType.span .nil⟩
  refine hname.bind fun _ => hnew.bind fun _ => htype.bind fun _ => ?_
  apply (agree_checkAnnotationUses h.annotations).bind
  intro annotations
  rw [h.name.value, h.returnType.value]
  exact .ok _

theorem agree_checkAccessors (type : QualifiedName) {l r : List AccessorDraft}
    (h : Forall₂ (AccessorDraft.Alike same) l r)
    (hseen : Forall₂ (RecordsAlike same) seen seen') :
    Agree same (checkAccessors type seen l) (checkAccessors type seen' r) := by
  induction h generalizing seen seen' with
  | nil => exact .ok []
  | @cons a b _ _ hab _ ih =>
    apply (agree_checkAccessor type hab hseen).bind
    intro accessor
    apply (ih (.cons ⟨hab.name.value, hab.name.span⟩ hseen)).bind
    intro accessors
    exact .ok _

end Accessors

section Types

variable {d e : TypeDraft} {seen seen' : List (QualifiedName × Span)}

theorem forall₂_zip_alike (names : List String) {l r : List AccessorDraft}
    (h : Forall₂ (AccessorDraft.Alike same) l r) :
    Forall₂ (RecordsAlike same) (names.zip (l.map (·.name.span)))
      (names.zip (r.map (·.name.span))) := by
  induction h generalizing names with
  | nil => simp
  | cons hab _ ih =>
    cases names with
    | nil => exact .nil
    | cons name names => exact .cons ⟨rfl, hab.name.span⟩ (ih names)

theorem agree_checkProperties (t : ValueType) {l r : List AccessorDraft}
    (h : Forall₂ (AccessorDraft.Alike same) l r) :
    Agree same (checkProperties t (l.map (·.name.span)))
      (checkProperties t (r.map (·.name.span))) := by
  apply agree_refuse
  apply rel_map (repeated?_alike .nil (forall₂_zip_alike t.propertyNames h))
  rintro ⟨property, first, second⟩ ⟨_, first', second'⟩ ⟨rfl, hfirst, hsecond⟩
  exact ⟨rfl, .cons hfirst (.cons hsecond .nil)⟩

theorem agree_checkTypeName {x y : Spanned String} (h : TextsAlike same x y)
    (hseen : Forall₂ (RecordsAlike same) seen seen') :
    Agree same (checkTypeName seen x) (checkTypeName seen' y) := by
  have hparse : Agree same ((QualifiedName.parse x.value).mapError (.typeName x))
      ((QualifiedName.parse y.value).mapError (.typeName y)) := by
    rw [h.value]
    apply agree_mapError
    intro cause
    refine ⟨?_, .cons h.span .nil⟩
    simp [Fault.erase, h.value]
  apply hparse.bind
  intro name
  have hnew : Agree same (refuse ((earlier? seen name).map (.duplicateType name · x.span)))
      (refuse ((earlier? seen' name).map (.duplicateType name · y.span))) := by
    apply agree_refuse
    apply rel_map (earlier?_alike hseen name)
    intro first first' hfirst
    exact ⟨rfl, .cons hfirst (.cons h.span .nil)⟩
  exact hnew.bind fun _ => .ok name

theorem agree_checkType (h : d.Alike same e) (hseen : Forall₂ (RecordsAlike same) seen seen') :
    Agree same (checkType seen d) (checkType seen' e) := by
  apply (agree_checkTypeName h.name hseen).bind
  intro name
  apply (agree_checkAnnotationUses h.annotations).bind
  intro annotations
  apply (agree_checkAccessors name h.accessors .nil).bind
  intro accessors
  exact (agree_checkProperties _ h.accessors).bind fun _ => .ok _

/-- What has been seen grows in step, since both give the type the same name. -/
theorem agree_checkTypes {l r : List TypeDraft} (h : Forall₂ (TypeDraft.Alike same) l r)
    (hseen : Forall₂ (RecordsAlike same) seen seen') :
    Agree same (checkTypes seen l) (checkTypes seen' r) := by
  induction h generalizing seen seen' with
  | nil => exact .ok []
  | @cons a b _ _ hab _ ih =>
    apply (agree_checkType hab hseen).bind
    intro t
    have hnext : Forall₂ (RecordsAlike same) ((t.name, a.name.span) :: seen)
        ((t.name, b.name.span) :: seen') := .cons ⟨rfl, hab.name.span⟩ hseen
    apply (ih hnext).bind
    intro ts
    exact .ok _

end Types

theorem agree_ofDraft {d e : Draft} (h : d.Alike same e) : Agree same (ofDraft d) (ofDraft e) := by
  apply (agree_optionMapM h.source fun _ _ => agree_checkSource).bind
  intro source
  apply (agree_checkTypes h.types .nil).bind
  intro types
  exact .ok _

end Checks

section Paths

variable {d e : Draft}

theorem forall₂_of_map_eq {γ : Type} {R : α → α → Prop} {f : α → γ} {l r : List α}
    (h : l.map f = r.map f)
    (hR : ∀ (i : Nat) a b, l[i]? = some a → r[i]? = some b → f a = f b → R a b) :
    Forall₂ R l r := by
  have hlength : l.length = r.length := by simpa using congrArg List.length h
  apply List.forall₂_iff_get.mpr
  refine ⟨hlength, fun i hl hr => ?_⟩
  have ha : l[i]? = some (l.get ⟨i, hl⟩) := List.getElem?_eq_getElem hl
  have hb : r[i]? = some (r.get ⟨i, hr⟩) := List.getElem?_eq_getElem hr
  refine hR i _ _ ha hb ?_
  have hi := congrArg (·[i]?) h
  simpa [hl, hr] using hi

theorem textsAlike_of_path {p : Path} {x y : Spanned String} (hx : d.text? p = some x)
    (hy : e.text? p = some y) (h : unplaced x.value = unplaced y.value) :
    TextsAlike (SamePath d e) x y where
  value := (Spanned.mk.inj h).1
  span := ⟨p, x, y, hx, hy, rfl, rfl⟩

theorem AccessorDraft.alike_of_erase {a b : AccessorDraft} {t i : Nat}
    (ha : d.accessor? t i = some a) (hb : e.accessor? t i = some b) (h : a.erase = b.erase) :
    a.Alike (SamePath d e) b where
  name := by
    apply textsAlike_of_path (p := .accessorName t i)
    · simp [Draft.text?, ha]
    · simp [Draft.text?, hb]
    · exact congrArg AccessorDraft.name h
  returnType := by
    apply textsAlike_of_path (p := .returnType t i)
    · simp [Draft.text?, ha]
    · simp [Draft.text?, hb]
    · exact congrArg AccessorDraft.returnType h
  annotations := by
    apply forall₂_of_map_eq (congrArg AccessorDraft.annotations h)
    intro k x y hx hy
    apply textsAlike_of_path (p := .accessorAnnotationUse t i k)
    · simp [Draft.text?, ha, hx]
    · simp [Draft.text?, hb, hy]

theorem TypeDraft.alike_of_erase {a b : TypeDraft} {t : Nat} (ha : d.types[t]? = some a)
    (hb : e.types[t]? = some b) (h : a.erase = b.erase) : a.Alike (SamePath d e) b where
  name := by
    apply textsAlike_of_path (p := .typeName t)
    · simp [Draft.text?, ha]
    · simp [Draft.text?, hb]
    · exact congrArg TypeDraft.name h
  annotations := by
    apply forall₂_of_map_eq (congrArg TypeDraft.annotations h)
    intro k x y hx hy
    apply textsAlike_of_path (p := .typeAnnotationUse t k)
    · simp [Draft.text?, ha, hx]
    · simp [Draft.text?, hb, hy]
  accessors := by
    apply forall₂_of_map_eq (congrArg TypeDraft.accessors h)
    intro i c c' hc hc'
    apply AccessorDraft.alike_of_erase (t := t) (i := i)
    · simp [Draft.accessor?, ha, hc]
    · simp [Draft.accessor?, hb, hc']

/-- Drafts with the same texts are alike, path by path. -/
theorem Draft.alike_of_erase (h : d.erase = e.erase) : d.Alike (SamePath d e) e where
  source := by
    have hsource : d.source.map (unplaced ·.value) = e.source.map (unplaced ·.value) :=
      congrArg Draft.source h
    cases hd : d.source with
    | none =>
      cases he : e.source with
      | none => exact .none
      | some y => simp [hd, he] at hsource
    | some x =>
      cases he : e.source with
      | none => simp [hd, he] at hsource
      | some y =>
        rw [hd, he] at hsource
        exact .some (textsAlike_of_path (p := .source) hd he (Option.some.inj hsource))
  types := by
    apply forall₂_of_map_eq (congrArg Draft.types h)
    intro t a b ha hb
    exact TypeDraft.alike_of_erase ha hb

end Paths

section Reports

theorem Fault.code_erase (f : Fault) : f.erase.code = f.code := by
  cases f <;> rfl

theorem Fault.message_erase (f : Fault) : f.erase.message = f.message := by
  cases f <;> rfl

theorem Fault.help?_erase (f : Fault) : f.erase.help? = f.help? := by
  cases f <;> rfl

theorem Fault.labels_erase (f : Fault) :
    f.erase.labels.map Label.text = f.labels.map Label.text := by
  cases f <;> rfl

/-- The same fault of two drafts. Their files and its places apart, nothing about it differs, and
its places are those of the same texts. -/
structure SameFault (d e : Draft) (f g : Fault) : Prop where
  erase : f.erase = g.erase
  code : ∀ file file', (Error.faulty file f).code = (Error.faulty file' g).code
  message : ∀ file file', (Error.faulty file f).message = (Error.faulty file' g).message
  help : ∀ file file', (Error.faulty file f).help? = (Error.faulty file' g).help?
  labels : f.labels.map Label.text = g.labels.map Label.text
  places : Forall₂ (SamePath d e) (f.labels.map Label.span) (g.labels.map Label.span)

theorem Fault.Alike.sameFault {d e : Draft} {f g : Fault} (h : f.Alike (SamePath d e) g) :
    SameFault d e f g where
  erase := h.erase
  code := fun _ _ => by
    change f.code = g.code
    rw [← f.code_erase, h.erase, g.code_erase]
  message := fun _ _ => by
    change f.message = g.message
    rw [← f.message_erase, h.erase, g.message_erase]
  help := fun _ _ => by
    change f.help? = g.help?
    rw [← f.help?_erase, h.erase, g.help?_erase]
  labels := by rw [← f.labels_erase, h.erase, g.labels_erase]
  places := h.spans

theorem Draft.WrittenIn.parse_eq {d : Draft} {text : String} (h : d.WrittenIn text)
    (file : String) : parse text file = (ofDraft d).mapError (.faulty file) := by
  obtain ⟨document, hdocument, hdraft⟩ := h
  simp only [parse, hdocument, hdraft]

/-- Manifests with the same texts are read as the same manifest, or refused for the same fault at
the same texts, wherever these stand and whatever the files are called. -/
theorem same_reading_of_same_texts {d e : Draft} (h : d.erase = e.erase) :
    ((∃ m, ofDraft d = .ok m ∧ ofDraft e = .ok m) ∨
      ∃ f g, ofDraft d = .error f ∧ ofDraft e = .error g ∧ SameFault d e f g) ∧
    ∀ text text' file file', d.WrittenIn text → e.WrittenIn text' →
      (∃ m, parse text file = .ok m ∧ parse text' file' = .ok m) ∨
      ∃ f g, parse text file = .error (.faulty file f) ∧
        parse text' file' = .error (.faulty file' g) ∧ SameFault d e f g := by
  have hchecked : (∃ m, ofDraft d = .ok m ∧ ofDraft e = .ok m) ∨
      ∃ f g, ofDraft d = .error f ∧ ofDraft e = .error g ∧ SameFault d e f g := by
    have hagree := agree_ofDraft (Draft.alike_of_erase h)
    generalize ofDraft d = x, ofDraft e = y at hagree ⊢
    cases hagree with
    | ok m => exact .inl ⟨m, rfl, rfl⟩
    | error hfault => exact .inr ⟨_, _, rfl, rfl, hfault.sameFault⟩
  refine ⟨hchecked, ?_⟩
  intro text text' file file' hd he
  rw [hd.parse_eq, he.parse_eq]
  obtain ⟨m, hm, hm'⟩ | ⟨f, g, hf, hg, hsame⟩ := hchecked
  · rw [hm, hm']
    exact .inl ⟨m, rfl, rfl⟩
  · rw [hf, hg]
    exact .inr ⟨f, g, rfl, rfl, hsame⟩

/-- An accessor is declared twice. -/
def spreadText : String :=
  "types = [\n  ['a.B', [], [['x', 'int'], ['x', 'int']]],\n]\n"

/-- The same on one line, without blanks and in other quotes. -/
def compactText : String :=
  "types=[[\"a.B\",[],[[\"x\",\"int\"],[\"x\",\"int\"]]]]"

def spreadDraft : Draft :=
  ⟨none, [⟨⟨"a.B", ⟨13, 5⟩⟩, [], [⟨⟨"x", ⟨26, 3⟩⟩, ⟨"int", ⟨31, 5⟩⟩, []⟩,
    ⟨⟨"x", ⟨40, 3⟩⟩, ⟨"int", ⟨45, 5⟩⟩, []⟩]⟩]⟩

def compactDraft : Draft :=
  ⟨none, [⟨⟨"a.B", ⟨8, 5⟩⟩, [], [⟨⟨"x", ⟨19, 3⟩⟩, ⟨"int", ⟨23, 5⟩⟩, []⟩,
    ⟨⟨"x", ⟨31, 3⟩⟩, ⟨"int", ⟨35, 5⟩⟩, []⟩]⟩]⟩

theorem writtenIn_of_map {d : Draft} {text : String}
    (h : (Toml.parse? text).map Draft.ofTable = some (.ok d)) : d.WrittenIn text :=
  Option.map_eq_some_iff.mp h

theorem spread_read_as_compact : spreadDraft.erase = compactDraft.erase ∧
    ∃ f g, parse spreadText "a.toml" = .error (.faulty "a.toml" f) ∧
      parse compactText "b.toml" = .error (.faulty "b.toml" g) ∧
      SameFault spreadDraft compactDraft f g ∧ f.labels ≠ g.labels := by
  have herase : spreadDraft.erase = compactDraft.erase := by decide
  have hspread : spreadDraft.WrittenIn spreadText := writtenIn_of_map (by decide +kernel)
  have hcompact : compactDraft.WrittenIn compactText := writtenIn_of_map (by decide +kernel)
  refine ⟨herase, ?_⟩
  obtain ⟨m, hm, _⟩ | ⟨f, g, hf, hg, hsame⟩ :=
    (same_reading_of_same_texts herase).2 _ _ "a.toml" "b.toml" hspread hcompact
  · rw [hspread.parse_eq_ok_iff] at hm
    cases hm
  · refine ⟨f, g, hf, hg, hsame, ?_⟩
    rw [hspread.parse_eq] at hf
    rw [hcompact.parse_eq] at hg
    cases hf
    cases hg
    decide

end Reports

end AccessorGen.Manifest
