import AccessorGen.Proofs.RenderedText
import AccessorGen.Proofs.WrittenManifest

/-! A manifest may list its types in any order, and so may each type its annotations and its
accessors. What is generated from them stands in the same order and is otherwise the same. -/
namespace AccessorGen

open List (Forall₂)

/-- The items of a list at the given places. -/
def atPlaces {α : Type} (places : List Nat) (l : List α) : List α :=
  places.filterMap (l[·]?)

/-- The place that a type is taken from, and the places that its parts are taken from. -/
structure TypeOrder where
  place : Nat
  annotations : List Nat
  accessors : List Nat

/-- The items at the places of an order, with their parts arranged as well. -/
def placed {α : Type} (arrange : TypeOrder → α → α) (order : List TypeOrder) (l : List α) : List α :=
  order.filterMap fun q => l[q.place]?.map (arrange q)

/-- Each part of a type with so many annotations and accessors is taken once. -/
structure TypeOrder.Fits (q : TypeOrder) (sizes : Nat × Nat) : Prop where
  annotations : q.annotations.Perm (List.range sizes.1)
  accessors : q.accessors.Perm (List.range sizes.2)

instance (q : TypeOrder) (sizes : Nat × Nat) : Decidable (q.Fits sizes) :=
  decidable_of_iff (q.annotations.Perm (List.range sizes.1) ∧
    q.accessors.Perm (List.range sizes.2)) ⟨fun h => ⟨h.1, h.2⟩, fun h => ⟨h.1, h.2⟩⟩

/-- Each of the types of the given sizes is taken once, with all its parts. -/
structure Fits (order : List TypeOrder) (sizes : List (Nat × Nat)) : Prop where
  places : (order.map TypeOrder.place).Perm (List.range sizes.length)
  parts : ∀ q ∈ order, ∀ s ∈ sizes[q.place]?, q.Fits s

section Lists

variable {α β γ : Type} {places : List Nat} {order : List TypeOrder} {l : List α} {r : List β}
  {R : α → β → Prop} {arrange : TypeOrder → α → α} {arrange' : TypeOrder → β → β}

theorem map_atPlaces (f : α → β) : (atPlaces places l).map f = atPlaces places (l.map f) := by
  simp [atPlaces, List.map_filterMap]

theorem atPlaces_range (l : List α) : atPlaces (List.range l.length) l = l := by
  induction l with
  | nil => rfl
  | cons a l ih =>
    rw [atPlaces] at ih
    simp [atPlaces, List.range_succ_eq_map, List.filterMap_map, ih]

theorem atPlaces_perm (h : places.Perm (List.range l.length)) : (atPlaces places l).Perm l := by
  have hperm : (atPlaces places l).Perm (atPlaces (List.range l.length) l) := h.filterMap (l[·]?)
  rwa [atPlaces_range] at hperm

theorem rel_getElem? (h : Forall₂ R l r) (i : Nat) : Option.Rel R l[i]? r[i]? := by
  induction h generalizing i with
  | nil => exact .none
  | cons hab _ ih =>
    cases i with
    | zero => exact .some hab
    | succ i => exact ih i

theorem forall₂_filterMap {f : γ → Option α} {g : γ → Option β} {cs : List γ}
    (h : ∀ c ∈ cs, Option.Rel R (f c) (g c)) : Forall₂ R (cs.filterMap f) (cs.filterMap g) := by
  induction cs with
  | nil => exact .nil
  | cons c cs ih =>
    obtain ⟨hc, hcs⟩ := List.forall_mem_cons.mp h
    rw [List.filterMap_cons, List.filterMap_cons]
    generalize f c = o, g c = p at hc
    cases hc with
    | none => exact ih hcs
    | some hab => exact .cons hab (ih hcs)

theorem mem_placed {a : α} : a ∈ placed arrange order l ↔
    ∃ q ∈ order, ∃ b, l[q.place]? = some b ∧ arrange q b = a := by
  simp [placed, List.mem_filterMap]

/-- What the arrangement of the parts does not change goes with its item. -/
theorem map_placed (f : α → γ) (hf : ∀ q a, f (arrange q a) = f a) :
    (placed arrange order l).map f = atPlaces (order.map TypeOrder.place) (l.map f) := by
  have hcomp (q : TypeOrder) : f ∘ arrange q = f := funext (hf q)
  simp [placed, atPlaces, List.map_filterMap, List.filterMap_map, hcomp]

variable (arrange) in
theorem map_placed_perm (h : (order.map TypeOrder.place).Perm (List.range l.length)) (f : α → γ)
    (hf : ∀ q a, f (arrange q a) = f a) : ((placed arrange order l).map f).Perm (l.map f) := by
  rw [map_placed f hf]
  apply atPlaces_perm
  rwa [List.length_map]

theorem Fits.places_perm {sizes : α → Nat × Nat} (h : Fits order (l.map sizes)) :
    (order.map TypeOrder.place).Perm (List.range l.length) := by
  rw [← l.length_map sizes]
  exact h.places

theorem Fits.fits_of_getElem? {sizes : α → Nat × Nat} (h : Fits order (l.map sizes))
    {q : TypeOrder} (hq : q ∈ order) {a : α} (ha : l[q.place]? = some a) : q.Fits (sizes a) := by
  refine h.parts q hq (sizes a) ?_
  rw [List.getElem?_map, ha]
  rfl

theorem exists_order_of_mem (h : (order.map TypeOrder.place).Perm (List.range l.length)) {a : α}
    (ha : a ∈ l) : ∃ q ∈ order, l[q.place]? = some a := by
  obtain ⟨i, hi, rfl⟩ := List.mem_iff_getElem.mp ha
  have hplace : i ∈ order.map TypeOrder.place := h.mem_iff.mpr (List.mem_range.mpr hi)
  obtain ⟨q, hq, rfl⟩ := List.mem_map.mp hplace
  exact ⟨q, hq, List.getElem?_eq_getElem hi⟩

theorem forall₂_atPlaces (h : Forall₂ R l r) : Forall₂ R (atPlaces places l) (atPlaces places r) :=
  forall₂_filterMap fun i _ => rel_getElem? h i

theorem forall₂_placed (h : Forall₂ R l r) (hR : ∀ q a b, R a b → R (arrange q a) (arrange' q b)) :
    Forall₂ R (placed arrange order l) (placed arrange' order r) := by
  refine forall₂_filterMap fun q _ => ?_
  have hrel := rel_getElem? h q.place
  generalize l[q.place]? = o, r[q.place]? = p at hrel
  cases hrel with
  | none => exact .none
  | some hab => exact .some (hR q _ _ hab)

variable (arrange) in
/-- One after the other, the items come from the places that the order names. -/
theorem forall₂_order_placed (h : (order.map TypeOrder.place).Perm (List.range l.length)) :
    Forall₂ (fun q a => ∃ b, l[q.place]? = some b ∧ arrange q b = a) order
      (placed arrange order l) := by
  have hinside : ∀ q ∈ order, q.place < l.length := by
    intro q hq
    exact List.mem_range.mp (h.mem_iff.mp (List.mem_map_of_mem hq))
  -- The rest of an order need not take every item, but its places still lie inside.
  clear h
  induction order with
  | nil => exact .nil
  | cons q order ih =>
    obtain ⟨hq, horder⟩ := List.forall_mem_cons.mp hinside
    have hplaced : placed arrange (q :: order) l =
        arrange q l[q.place] :: placed arrange order l := by
      simp [placed, hq]
    rw [hplaced]
    exact .cons ⟨_, List.getElem?_eq_getElem hq, rfl⟩ (ih horder)

end Lists

section Arrangement

def ValueType.arranged (q : TypeOrder) (t : ValueType) : ValueType :=
  { t with
    annotations := atPlaces q.annotations t.annotations
    accessors := atPlaces q.accessors t.accessors }

/-- How many annotations and how many accessors there are. -/
def ValueType.sizes (t : ValueType) : Nat × Nat := (t.annotations.length, t.accessors.length)

def Metadata.arranged (places : List Nat) (m : Metadata) : Metadata :=
  { m with properties := atPlaces places m.properties }

namespace Manifest

def TypeDraft.arranged (q : TypeOrder) (d : TypeDraft) : TypeDraft :=
  { d with
    annotations := atPlaces q.annotations d.annotations
    accessors := atPlaces q.accessors d.accessors }

/-- The draft with its types in the given order, and the parts of each in theirs. -/
def Draft.arranged (order : List TypeOrder) (d : Draft) : Draft :=
  { d with types := placed TypeDraft.arranged order d.types }

def arranged (order : List TypeOrder) (m : Manifest) : Manifest :=
  { m with types := placed ValueType.arranged order m.types }

def TypeDraft.sizes (d : TypeDraft) : Nat × Nat := (d.annotations.length, d.accessors.length)

def Draft.sizes (d : Draft) : List (Nat × Nat) := d.types.map TypeDraft.sizes

end Manifest

end Arrangement

namespace ValueType

variable {t t' : ValueType} {q : TypeOrder}

theorem propertyName_congr (h : t.accessors.Perm t'.accessors) :
    t.propertyName = t'.propertyName := by
  have hall : t.AllStemmed ↔ t'.AllStemmed := by simp only [AllStemmed, h.mem_iff]
  funext a
  simp only [propertyName, hall]

theorem propertyNames_perm (h : t.accessors.Perm t'.accessors) :
    t.propertyNames.Perm t'.propertyNames := by
  rw [propertyNames_eq_map, propertyNames_eq_map, propertyName_congr h]
  exact h.map _

theorem Sound.of_perm (ht : t.Sound) (h : t.accessors.Perm t'.accessors) : t'.Sound where
  accessors := fun a ha => ht.accessors a (h.mem_iff.mpr ha)
  accessorNames := (h.map Accessor.name).nodup_iff.mp ht.accessorNames
  propertyNames := (propertyNames_perm h).nodup_iff.mp ht.propertyNames

theorem isActive_congr (h : t.annotations.Perm t'.annotations) :
    JsonBinding.isActive t = JsonBinding.isActive t' := by
  rw [Bool.eq_iff_iff]
  simp only [JsonBinding.isActive_iff, h.mem_iff]

/-- The property of an accessor hangs on which accessors and annotations there are, not on their
order. -/
theorem metadata_arranged (h : q.Fits t.sizes) :
    (t.arranged q).metadata = t.metadata.arranged q.accessors := by
  have hactive : JsonBinding.isActive (t.arranged q) = JsonBinding.isActive t :=
    isActive_congr (atPlaces_perm h.annotations)
  have hname : (t.arranged q).propertyName = t.propertyName :=
    propertyName_congr (atPlaces_perm h.accessors)
  have hproperties : (t.arranged q).metadata.properties =
      atPlaces q.accessors t.metadata.properties := by
    rw [properties_eq_map, properties_eq_map, hactive, hname, ← map_atPlaces]
    rfl
  exact congrArg (Metadata.mk t.name) hproperties

end ValueType

namespace Metadata

open Code

/-- The text of members, from their title, the lines of each override, and the statement that
computes the hash code. -/
def membersText (title : String) (overrides : List (List String)) (statement : String) : String :=
  ofLines (ofParagraphs ([title] :: (overrides ++ [["@Override", "public int hashCode() \x7b",
    "  " ++ statement, "\x7d"]])))

variable {ε σ : Type} [FeatureFamily ε σ] [DecidableEq ε] {r : Registry ε}

/-- Beside the names that it lists, the statement for the hash code hangs on the registry alone. -/
theorem exists_render_eq_membersText (h : (r.get? .sourceLevel).isSome) :
    ∃ before after : String, ∀ m : Metadata, m.render r = .ok (membersText m.title
      (m.properties.map Property.overrideLines)
      (before ++ ", ".intercalate (m.properties.map Property.name) ++ after)) := by
  obtain ⟨l, hlevel⟩ := Option.isSome_iff_exists.mp h
  obtain ⟨before, after, _, _, hstatement⟩ := exists_hashStatement_eq l
  refine ⟨before, after, fun m => ?_⟩
  have htext : (({} : Writer).emit (m.fragments l)).text = membersText m.title
      (m.properties.map Property.overrideLines) (before ++ m.hashArguments ++ after) := by
    rw [← hstatement]
    exact m.text_emit l
  exact (render_eq_ok hlevel m).trans (congrArg Except.ok htext)

end Metadata

/-- What is generated for a type comes in the order of its accessors and is otherwise the same. -/
structure ValueType.MembersFollow (t : ValueType) (q : TypeOrder) : Prop where
  metadata : (t.arranged q).metadata = t.metadata.arranged q.accessors
  /-- Each accessor keeps its property. -/
  properties : (t.arranged q).accessors.zip (t.arranged q).metadata.properties =
    atPlaces q.accessors (t.accessors.zip t.metadata.properties)
  text : ∀ {ε σ : Type} [FeatureFamily ε σ] [DecidableEq ε] (r : Registry ε),
    (r.get? .sourceLevel).isSome → ∃ before after : String,
      t.metadata.render r = .ok (Metadata.membersText t.metadata.title
        (t.metadata.properties.map Property.overrideLines)
        (before ++ ", ".intercalate (t.metadata.properties.map Property.name) ++ after)) ∧
      (t.arranged q).metadata.render r = .ok (Metadata.membersText t.metadata.title
        (atPlaces q.accessors (t.metadata.properties.map Property.overrideLines))
        (before ++
          ", ".intercalate (atPlaces q.accessors (t.metadata.properties.map Property.name)) ++
          after))

theorem ValueType.membersFollow {t : ValueType} {q : TypeOrder} (h : q.Fits t.sizes) :
    t.MembersFollow q where
  metadata := metadata_arranged h
  properties := by
    rw [metadata_arranged h, Metadata.arranged, properties_eq_map, ← List.map_prod_left_eq_zip,
      ← map_atPlaces, ← map_atPlaces, List.map_prod_left_eq_zip]
    rfl
  text := by
    intro ε σ _ _ r hr
    obtain ⟨before, after, hrender⟩ := Metadata.exists_render_eq_membersText hr
    refine ⟨before, after, hrender t.metadata, ?_⟩
    rw [hrender, metadata_arranged h, ← map_atPlaces, ← map_atPlaces]
    rfl

namespace Manifest

variable {d d' : Draft} {m : Manifest} {order : List TypeOrder} {q : TypeOrder}

theorem TypeDraft.propertyNames_perm {s t : TypeDraft} (h : s.accessors.Perm t.accessors) :
    s.propertyNames.Perm t.propertyNames :=
  ValueType.propertyNames_perm (h.map AccessorDraft.bare)

theorem TypeDraft.Valid.of_perm {s t : TypeDraft} (hs : s.Valid) (hname : s.name = t.name)
    (hannotations : s.annotations.Perm t.annotations)
    (haccessors : s.accessors.Perm t.accessors) : t.Valid where
  name := hname ▸ hs.name
  annotations := fun text htext => hs.annotations text (hannotations.mem_iff.mpr htext)
  accessors := fun a ha => hs.accessors a (haccessors.mem_iff.mpr ha)
  accessorNames := (haccessors.map (·.name.value)).nodup_iff.mp hs.accessorNames
  propertyNames := (TypeDraft.propertyNames_perm haccessors).nodup_iff.mp hs.propertyNames

theorem Draft.Valid.of_arranged (h : Fits order d.sizes) (hd : (d.arranged order).Valid) :
    d.Valid where
  source := hd.source
  types := by
    intro t ht
    obtain ⟨q, hq, hplace⟩ := exists_order_of_mem h.places_perm ht
    have hfits := h.fits_of_getElem? hq hplace
    have harranged : t.arranged q ∈ (d.arranged order).types :=
      mem_placed.mpr ⟨q, hq, t, hplace, rfl⟩
    exact (hd.types _ harranged).of_perm rfl (atPlaces_perm hfits.annotations)
      (atPlaces_perm hfits.accessors)
  typeNames := by
    have hperm := map_placed_perm TypeDraft.arranged h.places_perm
      (fun t => QualifiedName.parse t.name.value) fun _ _ => rfl
    have hnames := hperm.nodup_iff.mp (List.pairwise_map.mpr hd.typeNames)
    exact List.pairwise_map.mp hnames

theorem Sound.arranged (hm : m.Sound) (h : Fits order (m.types.map ValueType.sizes)) :
    (m.arranged order).Sound where
  types := by
    intro t' ht'
    obtain ⟨q, hq, t, hplace, rfl⟩ := mem_placed.mp ht'
    have hfits := h.fits_of_getElem? hq hplace
    have ht := hm.types t (List.mem_of_getElem? hplace)
    exact ht.of_perm (atPlaces_perm hfits.accessors).symm
  typeNames := by
    have hperm := map_placed_perm ValueType.arranged h.places_perm ValueType.name
      fun _ _ => rfl
    exact hperm.nodup_iff.mpr hm.typeNames

theorem TypeDraft.Declares.arranged {e : TypeDraft} {t : ValueType} (h : e.Declares t)
    (q : TypeOrder) : (e.arranged q).Declares (t.arranged q) :=
  ⟨h.name, forall₂_atPlaces h.annotations, forall₂_atPlaces h.accessors⟩

theorem Draft.Declares.arranged (h : d.Declares m) (order : List TypeOrder) :
    (d.arranged order).Declares (m.arranged order) :=
  ⟨h.source, forall₂_placed h.types fun q _ _ ht => ht.arranged q⟩

theorem Draft.Declares.sizes_eq (h : d.Declares m) : d.sizes = m.types.map ValueType.sizes :=
  map_eq_map_of_forall₂ h.types fun _ _ ht =>
    Prod.ext ht.annotations.length_eq ht.accessors.length_eq

theorem accepted_arranged (h : Fits order d.sizes) (hm : ofDraft d = .ok m) :
    ofDraft (d.arranged order) = .ok (m.arranged order) := by
  obtain ⟨hdecl, hsound⟩ := ofDraft_eq_ok_iff.mp hm
  rw [hdecl.sizes_eq] at h
  exact ofDraft_eq_ok_iff.mpr ⟨hdecl.arranged order, hsound.arranged h⟩

theorem exists_accepted_arranged_iff (h : Fits order d.sizes) :
    (∃ m, ofDraft (d.arranged order) = .ok m) ↔ ∃ m, ofDraft d = .ok m := by
  constructor
  -- Nothing declared is at hand on the way back, so it goes by what is written.
  · simp only [ofDraft_eq_ok_iff, ← Draft.valid_iff]
    exact Draft.Valid.of_arranged h
  · rintro ⟨m, hm⟩
    exact ⟨_, accepted_arranged h hm⟩

theorem forall₂_membersFollow (h : Fits order (m.types.map ValueType.sizes)) :
    Forall₂ (fun q t' => ∃ t, m.types[q.place]? = some t ∧ t.arranged q = t' ∧ t.MembersFollow q)
      order (m.arranged order).types := by
  have hplaces := (List.forall₂_and_left _ _).mpr
    ⟨fun q hq => hq, forall₂_order_placed ValueType.arranged h.places_perm⟩
  refine hplaces.imp ?_
  rintro q t' ⟨hq, t, hplace, rfl⟩
  exact ⟨t, hplace, rfl, ValueType.membersFollow (h.fits_of_getElem? hq hplace)⟩

/-- The text of a manifest, read as far as its draft. -/
def Draft.WrittenIn (d : Draft) (text : String) : Prop :=
  ∃ document, Toml.parse? text = some document ∧ Draft.ofTable document = .ok d

theorem Draft.WrittenIn.parse_eq_ok_iff {text file : String} (h : d.WrittenIn text) :
    parse text file = .ok m ↔ ofDraft d = .ok m := by
  obtain ⟨document, hdocument, hdraft⟩ := h
  simp only [parse, hdocument, hdraft, mapError_eq_ok_iff]

/-- The order of the types, and in each type that of the annotations and of the accessors, does not
decide whether a manifest is accepted. What it declares stands in the same order, and so do the
members that are generated. -/
theorem order_insensitive (h : Fits order d.sizes) (hd : d'.erase = (d.arranged order).erase) :
    ((∃ m, ofDraft d' = .ok m) ↔ ∃ m, ofDraft d = .ok m) ∧
    (∀ text text' file file', d.WrittenIn text → d'.WrittenIn text' →
      ((∃ m, parse text' file' = .ok m) ↔ ∃ m, parse text file = .ok m)) ∧
    ∀ m, ofDraft d = .ok m → ofDraft d' = .ok (m.arranged order) ∧
      Forall₂ (fun q t' => ∃ t, m.types[q.place]? = some t ∧ t.arranged q = t' ∧
        t.MembersFollow q) order (m.arranged order).types := by
  have haccepted : (∃ m, ofDraft d' = .ok m) ↔ ∃ m, ofDraft d = .ok m := by
    rw [← exists_accepted_arranged_iff h]
    simp only [ofDraft_eq_ok_congr hd]
  refine ⟨haccepted, ?_, ?_⟩
  · intro text text' file file' htext htext'
    simp only [htext.parse_eq_ok_iff, htext'.parse_eq_ok_iff]
    exact haccepted
  · intro m hm
    have hdecl := (ofDraft_eq_ok_iff.mp hm).1
    refine ⟨(ofDraft_eq_ok_congr hd).mpr (accepted_arranged h hm), forall₂_membersFollow ?_⟩
    rw [← hdecl.sizes_eq]
    exact h

/-- The accessors of the first type have verbs. Those of the second do not all have one. -/
def pairDraft : Draft :=
  ⟨some ⟨"1.9", ⟨23, 5⟩⟩, [
    ⟨⟨"a.B", ⟨45, 5⟩⟩,
      [⟨"@a.C", ⟨66, 6⟩⟩,
        ⟨"@com.fasterxml.jackson.databind.annotation.JsonDeserialize", ⟨74, 60⟩⟩],
      [⟨⟨"getX", ⟨150, 6⟩⟩, ⟨"int", ⟨165, 5⟩⟩, []⟩,
        ⟨⟨"isY", ⟨181, 5⟩⟩, ⟨"boolean", ⟨195, 9⟩⟩, []⟩]⟩,
    ⟨⟨"D", ⟨230, 3⟩⟩, [],
      [⟨⟨"getX", ⟨251, 6⟩⟩, ⟨"int", ⟨266, 5⟩⟩, []⟩, ⟨⟨"y", ⟨282, 3⟩⟩, ⟨"int", ⟨294, 5⟩⟩, []⟩,
        ⟨⟨"z", ⟨310, 3⟩⟩, ⟨"int", ⟨322, 5⟩⟩, []⟩]⟩]⟩

def pairOrder : List TypeOrder :=
  [⟨1, [], [2, 0, 1]⟩, ⟨0, [1, 0], [1, 0]⟩]

def pairManifest : Manifest :=
  ⟨some ⟨9, by decide, by decide⟩, [
    ⟨⟨"a", "B"⟩, [⟨⟨"a", "C"⟩, "@a.C"⟩, .marker JsonBinding.trigger],
      [⟨"getX", "int", []⟩, ⟨"isY", "boolean", []⟩]⟩,
    ⟨⟨"", "D"⟩, [], [⟨"getX", "int", []⟩, ⟨"y", "int", []⟩, ⟨"z", "int", []⟩]⟩]⟩

theorem pairDraft_rearranged : Fits pairOrder pairDraft.sizes ∧
    ofDraft pairDraft = .ok pairManifest ∧
    ofDraft (pairDraft.arranged pairOrder).erase =
      .ok (pairManifest.arranged pairOrder) := by
  have hfits : Fits pairOrder pairDraft.sizes := ⟨by decide, by decide⟩
  have hm : ofDraft pairDraft = .ok pairManifest := rfl
  have herase : (pairDraft.arranged pairOrder).erase.erase =
      (pairDraft.arranged pairOrder).erase := rfl
  exact ⟨hfits, hm, ((order_insensitive hfits herase).2.2 _ hm).1⟩

end Manifest

end AccessorGen
