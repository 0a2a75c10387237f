import Mathlib.Data.List.Nodup
import ShipEmissions.Proofs.Document
import ShipEmissions.Proofs.Vessel
import ShipEmissions.Vessel.Document

/-!
# Vessels read from documents and from bags

A vessel is read from a document field by field: numbers, words, and the tier as an integer. It is
also read from a bag, for which every field becomes the value of an attribute and the tier a
floating-point number. Both ways lead to the same vessel wherever the first leads to one and no
field holds a list or an object. The second way leads further, as it takes `2.0` for a tier.

* `Json.record?_object_eq_some_iff`: a closed record has each of its names at most once.
* `Vessel.Lists`: fields that give the particulars of a vessel, in any order.
* `Vessel.ofJson?_object_eq_some_iff`: such fields are read as the vessel.
* `Vessel.Lists.ofBag?`: so are their attributes.
* `Vessel.reads_agree`: documents and bags agree, and a vessel is read back from its document.
-/

namespace ShipEmissions

namespace Json

variable {fields : Fields} {names : List String} {doc : Json}

/-! ## Closed records -/

theorem countName_eq_count (fields : Fields) (name : String) :
    fields.countName name = (fields.map Prod.fst).count name := by
  rw [Fields.countName, ← List.countP_eq_length_filter, List.count, List.countP_map]
  rfl

/-- Of fields with these names none is there twice iff each of the names occurs once at most. -/
theorem any_countName_eq_false_iff (hfields : ∀ field ∈ fields, field.1 ∈ names) :
    (names.any fun name => 1 < fields.countName name) = false ↔ (fields.map Prod.fst).Nodup := by
  simp only [List.any_eq_false, decide_eq_true_eq, Nat.not_lt, countName_eq_count,
    List.nodup_iff_count_le_one]
  refine ⟨fun h name => ?_, fun h name _ => h name⟩
  by_cases hname : name ∈ fields.map Prod.fst
  · obtain ⟨field, hfield, rfl⟩ := List.mem_map.1 hname
    exact h _ (hfields field hfield)
  · rw [List.count_eq_zero_of_not_mem hname]
    exact Nat.zero_le 1

/-- The fields of a closed record are the named ones, none of them twice. -/
theorem record?_object_eq_some_iff {values : List (Option Json)} :
    record? true names (.object fields) = some values ↔
      (fields.map Prod.fst).Nodup ∧ (∀ field ∈ fields, field.1 ∈ names) ∧
        names.map (fun name => fields.lookup name) = values := by
  rw [record?, Bool.true_and]
  constructor
  · intro h
    split at h
    · cases h
    · next hcount =>
      split at h
      · cases h
      · next hname =>
        have hfields : ∀ field ∈ fields, field.1 ∈ names := by simpa using hname
        exact ⟨(any_countName_eq_false_iff hfields).1 (Bool.of_not_eq_true hcount), hfields,
          Option.some.inj h⟩
  · rintro ⟨hnodup, hfields, rfl⟩
    rw [(any_countName_eq_false_iff hfields).2 hnodup, if_neg Bool.false_ne_true,
      if_neg (by simpa using hfields)]

/-! ## Documents that hold no others -/

/-- Whether a document holds no others. -/
def isScalar : Json → Bool
  | .array _ => false
  | .object _ => false
  | _ => true

theorem exists_read? (h : doc.isScalar = true) : ∃ value, Value.read? doc = .ok value := by
  cases doc with
  | array items => cases h
  | object fields => cases h
  | _ => exact ⟨_, rfl⟩

theorem read?_of_number? {x : Float} (h : doc.number? = some x) :
    Value.read? doc = .ok (.number x) := by
  obtain ⟨n, rfl, rfl⟩ := number?_eq_some_iff.1 h
  rfl

theorem read?_of_term? {τ : Type} [Vocabulary τ] [Vocabulary.Lawful τ] {t : τ}
    (hscalar : doc.isScalar = true) (h : doc.term? τ = some t) :
    Value.read? doc = .ok (.ofTerm t) := by
  cases doc with
  | text s =>
    obtain rfl := Vocabulary.ofWord?_eq_some_iff.1 h
    rfl
  | array items => cases hscalar
  | object fields => cases hscalar
  | _ => cases h

theorem tier?_eq_some_iff {t : NoxTier} :
    doc.tier? = some t ↔ doc = .number (.integer t.level) := by
  constructor
  · intro h
    unfold tier? at h
    split at h
    case h_2 => cases h
    case h_1 n =>
      split at h
      case isFalse => cases h
      case isTrue hn =>
        have hlevel := List.find?_some h
        rw [beq_iff_eq] at hlevel
        rw [hlevel, Int.toNat_of_nonneg hn]
  · rintro rfl
    cases t <;> rfl

end Json

namespace Vessel

variable {fields : Json.Fields} {p : Particulars Float} {v : Vessel Float}

/-! ## Fields of vessels -/

/-- The fields give these particulars and nothing else, each once and in any order. -/
structure Lists (fields : Json.Fields) (p : Particulars Float) : Prop where
  nodup : (fields.map Prod.fst).Nodup
  attributes : ∀ field ∈ fields, field.1 ∈ Vessel.attributes
  maxSpeed : ∃ doc, ("max_speed", doc) ∈ fields ∧ doc.number? = some p.maxSpeed
  engineKw : ∃ doc, ("engine_kw", doc) ∈ fields ∧ doc.number? = some p.engineKw
  engineRpm : ∃ doc, ("engine_rpm", doc) ∈ fields ∧ doc.number? = some p.engineRpm
  engineCategory : ∃ doc, ("engine_category", doc) ∈ fields ∧
    doc.term? EngineCategory = some p.engineCategory
  noxTier : ∃ doc, ("engine_nox_tier", doc) ∈ fields ∧ doc.tier? = some p.noxTier
  shipType : ∃ doc, ("ship_type", doc) ∈ fields ∧ doc.term? ShipType = some p.shipType
  size : ∃ doc, ("size", doc) ∈ fields ∧ doc.number? = some p.size
  sizeUnit : ∃ doc, ("size_unit", doc) ∈ fields ∧ doc.term? SizeUnit = some p.sizeUnit

theorem ofJson?_object_eq_some_iff :
    ofJson? (.object fields) = some v ↔ Lists fields v.toParticulars := by
  rw [ofJson?]
  constructor
  · intro h
    split at h
    · next maxSpeed engineKw engineRpm category tier shipType size sizeUnit hrecord =>
      obtain ⟨hnodup, hnames, hvalues⟩ := Json.record?_object_eq_some_iff.1 hrecord
      simp only [attributes, List.map_cons, List.map_nil, List.cons.injEq, and_true] at hvalues
      obtain ⟨hspeed, hkw, hrpm, hcategory, htier, htype, hsize, hunit⟩ := hvalues
      simp only [bind, Option.bind_eq_some_iff, of?_eq_some_iff] at h
      obtain ⟨_, hspeed', _, hkw', _, hrpm', _, hcategory', _, htier', _, htype', _, hsize', _,
        hunit', hv⟩ := h
      rw [hv]
      exact ⟨hnodup, hnames, ⟨_, Json.mem_of_lookup hspeed, hspeed'⟩,
        ⟨_, Json.mem_of_lookup hkw, hkw'⟩, ⟨_, Json.mem_of_lookup hrpm, hrpm'⟩,
        ⟨_, Json.mem_of_lookup hcategory, hcategory'⟩, ⟨_, Json.mem_of_lookup htier, htier'⟩,
        ⟨_, Json.mem_of_lookup htype, htype'⟩, ⟨_, Json.mem_of_lookup hsize, hsize'⟩,
        ⟨_, Json.mem_of_lookup hunit, hunit'⟩⟩
    · cases h
  · rintro ⟨hnodup, hnames, ⟨maxSpeed, hspeed, hspeed'⟩, ⟨engineKw, hkw, hkw'⟩,
      ⟨engineRpm, hrpm, hrpm'⟩, ⟨category, hcategory, hcategory'⟩, ⟨tier, htier, htier'⟩,
      ⟨shipType, htype, htype'⟩, ⟨size, hsize, hsize'⟩, ⟨sizeUnit, hunit, hunit'⟩⟩
    have hrecord : Json.record? true attributes (.object fields) = some [some maxSpeed,
        some engineKw, some engineRpm, some category, some tier, some shipType, some size,
        some sizeUnit] := by
      refine Json.record?_object_eq_some_iff.2 ⟨hnodup, hnames, ?_⟩
      simp only [attributes, List.map_cons, List.map_nil, Json.lookup_eq_some_iff hnodup,
        List.cons.injEq, and_true]
      exact ⟨hspeed, hkw, hrpm, hcategory, htier, htype, hsize, hunit⟩
    rw [hrecord]
    simp only [bind, Option.bind_eq_some_iff, of?_eq_some_iff]
    exact ⟨_, hspeed', _, hkw', _, hrpm', _, hcategory', _, htier', _, htype', _, hsize', _, hunit',
      rfl⟩

/-! ## Fields as attributes -/

/-- The bag with an attribute for every field. -/
def bagOfFields? (fields : Json.Fields) : Except WordError Bag := Bag.ofFields? (fun _ e => e) fields

/-- Of fields with different names, the bag has the value of each, and nothing else. -/
theorem exists_bagOfFields? (hnodup : (fields.map Prod.fst).Nodup)
    (hscalar : ∀ field ∈ fields, field.2.isScalar = true) :
    ∃ bag, bagOfFields? fields = .ok bag ∧
      (∀ name ∈ bag, ∃ doc, (name, doc) ∈ fields) ∧
      ∀ name doc value, (name, doc) ∈ fields → Value.read? doc = .ok value →
        bag[name]? = some value := by
  have hread : ∀ field ∈ fields, ∃ entry,
      Bag.entryOfField? (fun _ e => e) field = .ok entry := by
    intro field hfield
    obtain ⟨value, hvalue⟩ := Json.exists_read? (hscalar field hfield)
    exact ⟨(field.1, value), Bag.entryOfField?_eq_ok_iff.2 ⟨rfl, hvalue⟩⟩
  obtain ⟨entries, hentries⟩ := Outcome.exists_mapM_eq_ok_iff.2 hread
  have hkeys : entries.map Prod.fst = fields.map Prod.fst := by
    rw [← List.forall₂_eq_eq_eq, List.forall₂_map_left_iff, List.forall₂_map_right_iff]
    exact (Outcome.mapM_eq_ok_iff.1 hentries).flip.imp fun entry field hentry =>
      (Bag.entryOfField?_eq_ok_iff.1 hentry).1
  refine ⟨.ofList entries, congrArg (Except.map Bag.ofList) hentries, ?_, ?_⟩
  · intro name hname
    rw [Bag.mem_ofList_iff, hkeys] at hname
    obtain ⟨⟨_, doc⟩, hmem, rfl⟩ := List.mem_map.1 hname
    exact ⟨doc, hmem⟩
  · intro name doc value hmem hvalue
    obtain ⟨⟨name', value'⟩, hentry, hfield⟩ := (Outcome.mem_of_mapM_eq_ok hentries).1 _ hmem
    obtain ⟨rfl, hvalue'⟩ := Bag.entryOfField?_eq_ok_iff.1 hfield
    obtain rfl := Except.ok.inj (hvalue.symm.trans hvalue')
    exact Bag.getElem?_ofList_of_mem (hkeys ▸ hnodup) hentry

/-- What is read from fields is also read from their attributes. -/
theorem Lists.ofBag? (h : Lists fields v.toParticulars)
    (hscalar : ∀ field ∈ fields, field.2.isScalar = true) :
    ∃ bag, bagOfFields? fields = .ok bag ∧ Vessel.ofBag? bag = .ok v := by
  obtain ⟨bag, hbag, hnames, hget⟩ := exists_bagOfFields? h.nodup hscalar
  have hnumber : ∀ {name : String} {x : Float},
      (∃ doc, (name, doc) ∈ fields ∧ doc.number? = some x) → bag[name]? = some (.number x) := by
    rintro name x ⟨doc, hmem, hdoc⟩
    exact hget name doc _ hmem (Json.read?_of_number? hdoc)
  have hterm : ∀ {τ : Type} [Vocabulary τ] [Vocabulary.Lawful τ] {name : String} {t : τ},
      (∃ doc, (name, doc) ∈ fields ∧ doc.term? τ = some t) → bag[name]? = some (.ofTerm t) := by
    rintro τ _ _ name t ⟨doc, hmem, hdoc⟩
    exact hget name doc _ hmem (Json.read?_of_term? (hscalar _ hmem) hdoc)
  refine ⟨bag, hbag, ofBag?_eq_ok_iff.2 ⟨fun name hname => ?_, hnumber h.maxSpeed,
    hnumber h.engineKw, hnumber h.engineRpm, hterm h.engineCategory, ?_, hterm h.shipType,
    hnumber h.size, hterm h.sizeUnit⟩⟩
  · obtain ⟨doc, hmem⟩ := hnames name hname
    exact Bag.isAttribute_iff.2 (h.attributes _ hmem)
  · obtain ⟨doc, hmem, hdoc⟩ := h.noxTier
    obtain rfl := Json.tier?_eq_some_iff.1 hdoc
    rw [hget _ _ _ hmem rfl, Option.bind_some]
    cases v.noxTier <;> rfl

/-! ## Documents of vessels -/

theorem Lists.perm {again : Json.Fields} (h : Lists fields p) (hperm : again.Perm fields) :
    Lists again p := by
  have hmem : ∀ {P : Json → Prop} {name : String}, (∃ doc, (name, doc) ∈ fields ∧ P doc) →
      ∃ doc, (name, doc) ∈ again ∧ P doc := by
    rintro P name ⟨doc, hdoc, hP⟩
    exact ⟨doc, hperm.mem_iff.2 hdoc, hP⟩
  exact {
    nodup := (hperm.map Prod.fst).nodup_iff.2 h.nodup
    attributes := fun field hfield => h.attributes field (hperm.mem_iff.1 hfield)
    maxSpeed := hmem h.maxSpeed
    engineKw := hmem h.engineKw
    engineRpm := hmem h.engineRpm
    engineCategory := hmem h.engineCategory
    noxTier := hmem h.noxTier
    shipType := hmem h.shipType
    size := hmem h.size
    sizeUnit := hmem h.sizeUnit }

/-- All numbers of a vessel can be written. -/
structure Finite (v : Vessel Float) : Prop where
  maxSpeed : v.maxSpeed.isFinite = true
  engineKw : v.engineKw.isFinite = true
  engineRpm : v.engineRpm.isFinite = true
  size : v.size.isFinite = true

/-- The document of a vessel lists its particulars. -/
theorem lists_toJson (h : v.Finite) :
    ∃ fields, v.toJson = .object fields ∧ (∀ field ∈ fields, field.2.isScalar = true) ∧
      Lists fields v.toParticulars := by
  have hscalar : ∀ x, (Json.ofFloat x).isScalar = true := by
    intro x
    rw [Json.ofFloat]
    split <;> rfl
  have hnumber : ∀ {x : Float}, x.isFinite = true → (Json.ofFloat x).number? = some x := by
    intro x hx
    rw [Json.ofFloat, if_pos hx]
    rfl
  have hterm : ∀ {τ : Type} [Vocabulary τ] [Vocabulary.Lawful τ] (t : τ),
      (Json.text (Vocabulary.word t)).term? τ = some t :=
    fun t => Vocabulary.Lawful.ofWord?_word t
  refine ⟨_, rfl, ?_, {
    nodup := Bag.nodup_attributes
    attributes := fun field hfield =>
      show field.1 ∈ Vessel.attributes from List.mem_map_of_mem hfield
    maxSpeed := ⟨_, by simp, hnumber h.maxSpeed⟩
    engineKw := ⟨_, by simp, hnumber h.engineKw⟩
    engineRpm := ⟨_, by simp, hnumber h.engineRpm⟩
    engineCategory := ⟨_, by simp, hterm v.engineCategory⟩
    noxTier := ⟨_, by simp, Json.tier?_eq_some_iff.2 rfl⟩
    shipType := ⟨_, by simp, hterm v.shipType⟩
    size := ⟨_, by simp, hnumber h.size⟩
    sizeUnit := ⟨_, by simp, hterm v.sizeUnit⟩ }⟩
  simp only [List.forall_mem_cons, hscalar, true_and]
  exact ⟨rfl, rfl, rfl, rfl, fun field hfield => (by cases hfield)⟩

/-- A vessel that is read from a document without lists and objects for values is also read from
the attributes of its fields. A vessel with finite numbers is read back from its own document, in
whatever order the fields of that stand, and from their attributes. -/
theorem reads_agree :
    (∀ (fields : Json.Fields) (v : Vessel Float), (∀ field ∈ fields, field.2.isScalar = true) →
      ofJson? (.object fields) = some v →
      ∃ bag, bagOfFields? fields = .ok bag ∧ Vessel.ofBag? bag = .ok v) ∧
    ∀ v : Vessel Float, v.Finite → ∃ fields, v.toJson = .object fields ∧
      ∀ again : Json.Fields, again.Perm fields → ofJson? (.object again) = some v ∧
        ∃ bag, bagOfFields? again = .ok bag ∧ Vessel.ofBag? bag = .ok v := by
  refine ⟨fun fields v hscalar h => (ofJson?_object_eq_some_iff.1 h).ofBag? hscalar, ?_⟩
  intro v hv
  obtain ⟨fields, hdoc, hscalar, hlists⟩ := lists_toJson hv
  refine ⟨fields, hdoc, fun again hperm => ?_⟩
  have hagain := hlists.perm hperm
  exact ⟨ofJson?_object_eq_some_iff.2 hagain,
    hagain.ofBag? fun field hfield => hscalar field (hperm.mem_iff.1 hfield)⟩

/-- A tug, with integers for some of its numbers. -/
def sampleFields : Json.Fields := [
  ("size_unit", .text "n/a"),
  ("size", .number (.integer 0)),
  ("ship_type", .text "tug"),
  ("engine_nox_tier", .number (.integer 2)),
  ("engine_category", .text "c2"),
  ("engine_rpm", .number (.decimal 900.5)),
  ("engine_kw", .number (.integer 1500)),
  ("max_speed", .number (.integer 12))]

theorem reads_agree_tug :
    ∃ v, ofJson? (.object sampleFields) = some v ∧
      (∃ bag, bagOfFields? sampleFields = .ok bag ∧ Vessel.ofBag? bag = .ok v) ∧
      v.Finite ∧ ∃ fields, v.toJson = .object fields ∧ ofJson? (.object fields) = some v ∧
        ∃ bag, bagOfFields? fields = .ok bag ∧ Vessel.ofBag? bag = .ok v := by
  let v : Vessel Float := ⟨⟨12, 1500, 900.5, .c2, .tier2, .tug, 0, .notApplicable⟩, by decide⟩
  have hread : ofJson? (.object sampleFields) = some v := rfl
  have hscalar : ∀ field ∈ sampleFields, field.2.isScalar = true := by decide
  have hfinite : v.Finite := ⟨by decide, by decide, by decide, by decide⟩
  obtain ⟨fields, hdoc, hfields⟩ := reads_agree.2 v hfinite
  exact ⟨v, hread, reads_agree.1 sampleFields v hscalar hread, hfinite, fields, hdoc,
    hfields fields (.refl fields)⟩

/-- Of the two ways, only that by a bag takes a tier that is not written as an integer. -/
example : ((Json.number (.decimal 2)).tier?, (Value.number 2).tier?) = (none, some .tier2) := rfl

end Vessel

end ShipEmissions
