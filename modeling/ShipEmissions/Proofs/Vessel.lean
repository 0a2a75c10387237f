import ShipEmissions.Proofs.Bag
import ShipEmissions.Proofs.Outcome
import ShipEmissions.Proofs.Vocabulary

/-!
# Bags that are vessels

A bag is a vessel if it holds the eight attributes and nothing else, each with a value that makes
sense by itself, and if the unit is one for the type. Type and unit are the only two attributes that
have to fit each other.

* `Vessel.Describes`, `ofBag?_eq_ok_iff`: which vessel a bag is read as.
* `ofBag?_toBag`: a vessel is read back from its bag.
* `Vessel.attributeFits`, `Vessel.UnitFits`: the checks on one attribute, and on type and unit.
* `exists_ofBag?_iff`: a bag is read as a vessel iff it passes these checks.
-/

namespace ShipEmissions

namespace Vessel

variable {bag : Bag} {name : String} {p : Particulars Float} {v : Vessel Float}

/-! ## Single attributes -/

theorem attribute?_eq_ok_iff {value : Value} :
    attribute? bag name = .ok value ↔ bag[name]? = some value ∧ value.isNull = false := by
  rw [← Bag.present?_eq_some_iff, attribute?]
  cases bag.present? name <;> simp

theorem numberAttribute?_eq_ok_iff {x : Float} :
    numberAttribute? bag name = .ok x ↔ bag[name]? = some (.number x) := by
  rw [numberAttribute?, Outcome.bind_eq_ok]
  constructor
  · rintro ⟨value, hvalue, h⟩
    rw [(attribute?_eq_ok_iff.1 hvalue).1]
    cases value with
    | number y => cases h; rfl
    | null => cases h
    | boolean b => cases h
    | text s => cases h
  · intro h
    exact ⟨.number x, attribute?_eq_ok_iff.2 ⟨h, rfl⟩, rfl⟩

theorem ofWord_eq_ok_iff {β : Type} {r : Except WordError β} {b : β} :
    Error.ofWord r = .ok b ↔ r = .ok b := by
  cases r <;> simp [Error.ofWord, Except.mapError]

theorem termAttribute?_eq_ok_iff {τ : Type} [Vocabulary τ] [Vocabulary.Lawful τ] {t : τ} :
    termAttribute? τ bag name = .ok t ↔ bag[name]? = some (.ofTerm t) := by
  rw [termAttribute?, Outcome.bind_eq_ok]
  constructor
  · rintro ⟨value, hvalue, h⟩
    rw [(attribute?_eq_ok_iff.1 hvalue).1, Value.readTerm?_eq_ok_iff.1 (ofWord_eq_ok_iff.1 h)]
  · intro h
    exact ⟨.ofTerm t, attribute?_eq_ok_iff.2 ⟨h, rfl⟩,
      ofWord_eq_ok_iff.2 (Value.readTerm?_eq_ok_iff.2 rfl)⟩

theorem tierOf?_eq_ok_iff {value : Value} {t : NoxTier} :
    tierOf? value = .ok t ↔ value.tier? = some t := by
  rw [tierOf?]
  cases value.tier? <;> simp

/-! ## Whole bags -/

/-- The bag holds these particulars and nothing else. -/
structure Describes (bag : Bag) (p : Particulars Float) : Prop where
  attributes : ∀ name ∈ bag, isAttribute name = true
  maxSpeed : bag["max_speed"]? = some (.number p.maxSpeed)
  engineKw : bag["engine_kw"]? = some (.number p.engineKw)
  engineRpm : bag["engine_rpm"]? = some (.number p.engineRpm)
  engineCategory : bag["engine_category"]? = some (.ofTerm p.engineCategory)
  noxTier : bag["engine_nox_tier"]?.bind Value.tier? = some p.noxTier
  shipType : bag["ship_type"]? = some (.ofTerm p.shipType)
  size : bag["size"]? = some (.number p.size)
  sizeUnit : bag["size_unit"]? = some (.ofTerm p.sizeUnit)

theorem find?_keys_eq_none_iff :
    (bag.keys.find? fun name => !isAttribute name) = none ↔
      ∀ name ∈ bag, isAttribute name = true := by
  simp only [List.find?_eq_none, Std.ExtTreeMap.mem_keys, Bool.not_eq_true', Bool.not_eq_false]

theorem isNull_of_tier? {value : Value} {t : NoxTier} (h : value.tier? = some t) :
    value.isNull = false := by
  cases value with
  | null => cases h
  | boolean b => rfl
  | number x => rfl
  | text s => rfl

theorem particularsOfBag?_eq_ok_iff : particularsOfBag? bag = .ok p ↔ Describes bag p := by
  rw [particularsOfBag?]
  constructor
  · intro h
    cases hfind : bag.keys.find? fun name => !isAttribute name with
    | some name => rw [hfind] at h; cases h
    | none =>
      simp only [hfind, Outcome.bind_eq_ok, attribute?_eq_ok_iff, numberAttribute?_eq_ok_iff,
        termAttribute?_eq_ok_iff, tierOf?_eq_ok_iff, Outcome.pure_eq_ok] at h
      obtain ⟨tier, ⟨htier, -⟩, maxSpeed, hspeed, engineKw, hkw, engineRpm, hrpm, category,
        hcategory, noxTier, hnox, shipType, htype, size, hsize, unit, hunit, rfl⟩ := h
      exact ⟨find?_keys_eq_none_iff.1 hfind, hspeed, hkw, hrpm, hcategory,
        by rw [htier, Option.bind_some, hnox], htype, hsize, hunit⟩
  · intro h
    obtain ⟨tier, htier, hnox⟩ := Option.bind_eq_some_iff.1 h.noxTier
    simp only [find?_keys_eq_none_iff.2 h.attributes, Outcome.bind_eq_ok, attribute?_eq_ok_iff,
      numberAttribute?_eq_ok_iff, termAttribute?_eq_ok_iff, tierOf?_eq_ok_iff, Outcome.pure_eq_ok]
    exact ⟨tier, ⟨htier, isNull_of_tier? hnox⟩, p.maxSpeed, h.maxSpeed, p.engineKw, h.engineKw,
      p.engineRpm, h.engineRpm, p.engineCategory, h.engineCategory, p.noxTier, hnox, p.shipType,
      h.shipType, p.size, h.size, p.sizeUnit, h.sizeUnit, rfl⟩

theorem of?_eq_some_iff : of? p = some v ↔ v.toParticulars = p := by
  rw [of?]
  constructor
  · intro h
    split at h
    · cases h
      rfl
    · cases h
  · rintro rfl
    exact dif_pos v.valid

theorem check?_eq_ok_iff : check? p = .ok v ↔ v.toParticulars = p := by
  rw [check?, ← of?_eq_some_iff]
  cases of? p <;> simp

/-- A bag is read as the vessel whose particulars it holds. -/
theorem ofBag?_eq_ok_iff : ofBag? bag = .ok v ↔ Describes bag v.toParticulars := by
  rw [ofBag?, Outcome.bind_eq_ok, ← particularsOfBag?_eq_ok_iff]
  constructor
  · rintro ⟨p, hp, hv⟩
    rw [check?_eq_ok_iff.1 hv]
    exact hp
  · intro h
    exact ⟨v.toParticulars, h, check?_eq_ok_iff.2 rfl⟩

/-! ## The bag of a vessel -/

theorem tier?_ofTier (t : NoxTier) : (Value.ofTier t).tier? = some t := by
  cases t <;> rfl

theorem describes_toBag (v : Vessel Float) : Describes v.toBag v.toParticulars := by
  have hget : ∀ {name : String} {value : Value}, (name, value) ∈ _ → v.toBag[name]? = some value :=
    fun hmem => Bag.getElem?_ofList_of_mem Bag.nodup_attributes hmem
  refine ⟨?_, hget (by simp), hget (by simp), hget (by simp), hget (by simp), ?_, hget (by simp),
    hget (by simp), hget (by simp)⟩
  · intro name hname
    rw [toBag, Bag.mem_ofList_iff] at hname
    exact Bag.isAttribute_iff.2 hname
  · have htier : v.toBag["engine_nox_tier"]? = some (.ofTier v.noxTier) := hget (by simp)
    rw [htier, Option.bind_some, tier?_ofTier]

/-- A vessel is read back from its bag. -/
theorem ofBag?_toBag (v : Vessel Float) : ofBag? v.toBag = .ok v :=
  ofBag?_eq_ok_iff.2 (describes_toBag v)

/-! ## Checks on attributes -/

/-- Whether a value makes sense for an attribute by itself. -/
def attributeFits (name : String) (value : Value) : Bool :=
  match name with
  | "max_speed" => value.number?.any fun x => 0 < x
  | "engine_kw" => value.number?.any fun x => 0 < x
  | "engine_rpm" => value.number?.any fun x => 0 < x
  | "engine_category" => (value.term? EngineCategory).isSome
  | "engine_nox_tier" => value.tier?.isSome
  | "ship_type" => (value.term? ShipType).isSome
  | "size" => value.number?.any fun x => 0 ≤ x
  | "size_unit" => (value.term? SizeUnit).isSome
  | _ => false

/-- The size is given in a unit in which ships of the type are measured. -/
def UnitFits (bag : Bag) : Prop :=
  ∃ (t : ShipType) (u : SizeUnit), bag["ship_type"]? = some (.ofTerm t) ∧
    bag["size_unit"]? = some (.ofTerm u) ∧ u ∈ t.sizeUnits

theorem unitFits_congr {a b : Bag} (htype : a["ship_type"]? = b["ship_type"]?)
    (hunit : a["size_unit"]? = b["size_unit"]?) : UnitFits a ↔ UnitFits b := by
  rw [UnitFits, UnitFits, htype, hunit]

/-- An attribute is there, and its value makes sense by itself. -/
def Has (bag : Bag) (name : String) : Prop :=
  ∃ value, bag[name]? = some value ∧ attributeFits name value = true

/-- The bag passes all checks: it holds the attributes of a vessel and nothing else. -/
structure Complete (bag : Bag) : Prop where
  attributes : ∀ name ∈ bag, isAttribute name = true
  has : ∀ name ∈ Vessel.attributes, Has bag name
  unit : UnitFits bag

theorem any_number?_iff {P : Float → Prop} [DecidablePred P] {value : Value} :
    (value.number?.any fun x => P x) = true ↔ ∃ x, value = .number x ∧ P x := by
  cases value <;> simp [Value.number?]

theorem isSome_term?_iff {τ : Type} [Vocabulary τ] [Vocabulary.Lawful τ] {value : Value} :
    (value.term? τ).isSome = true ↔ ∃ t : τ, value = .ofTerm t := by
  rw [Option.isSome_iff_exists]
  simp only [Value.term?_eq_some_iff]

theorem has_number_iff {P : Float → Prop} [DecidablePred P]
    (hfits : ∀ value, attributeFits name value = value.number?.any fun x => P x) :
    Has bag name ↔ ∃ x, bag[name]? = some (.number x) ∧ P x := by
  simp only [Has, hfits, any_number?_iff]
  constructor
  · rintro ⟨_, h, x, rfl, hx⟩; exact ⟨x, h, hx⟩
  · rintro ⟨x, h, hx⟩; exact ⟨_, h, x, rfl, hx⟩

theorem has_term_iff {τ : Type} [Vocabulary τ] [Vocabulary.Lawful τ]
    (hfits : ∀ value, attributeFits name value = (value.term? τ).isSome) :
    Has bag name ↔ ∃ t : τ, bag[name]? = some (.ofTerm t) := by
  simp only [Has, hfits, isSome_term?_iff]
  constructor
  · rintro ⟨_, h, t, rfl⟩; exact ⟨t, h⟩
  · rintro ⟨t, h⟩; exact ⟨_, h, t, rfl⟩

theorem has_tier_iff :
    Has bag "engine_nox_tier" ↔ ∃ t, bag["engine_nox_tier"]?.bind Value.tier? = some t := by
  simp only [Has, attributeFits, Option.isSome_iff_exists, Option.bind_eq_some_iff]
  constructor
  · rintro ⟨value, h, t, ht⟩; exact ⟨t, value, h, ht⟩
  · rintro ⟨t, value, h, ht⟩; exact ⟨value, h, t, ht⟩

/-- A bag is read as a vessel iff it passes the checks. -/
theorem exists_ofBag?_iff : (∃ v, ofBag? bag = .ok v) ↔ Complete bag := by
  simp only [ofBag?_eq_ok_iff]
  constructor
  · rintro ⟨v, h⟩
    obtain ⟨hspeed, hkw, hrpm, hsize, hunit⟩ := v.valid
    refine ⟨h.attributes, ?_, v.shipType, v.sizeUnit, h.shipType, h.sizeUnit, hunit⟩
    simp only [Vessel.attributes, List.forall_mem_cons]
    refine ⟨(has_number_iff fun _ => rfl).2 ⟨_, h.maxSpeed, hspeed⟩,
      (has_number_iff fun _ => rfl).2 ⟨_, h.engineKw, hkw⟩,
      (has_number_iff fun _ => rfl).2 ⟨_, h.engineRpm, hrpm⟩,
      (has_term_iff fun _ => rfl).2 ⟨_, h.engineCategory⟩,
      has_tier_iff.2 ⟨_, h.noxTier⟩, (has_term_iff fun _ => rfl).2 ⟨_, h.shipType⟩,
      (has_number_iff fun _ => rfl).2 ⟨_, h.size, hsize⟩,
      (has_term_iff fun _ => rfl).2 ⟨_, h.sizeUnit⟩, ?_⟩
    intro name hname
    cases hname
  · rintro ⟨hattributes, hhas, shipType, sizeUnit, htype, hunit, hfits⟩
    simp only [Vessel.attributes, List.forall_mem_cons] at hhas
    obtain ⟨hspeed, hkw, hrpm, hcategory, htier, -, hsize, -, -⟩ := hhas
    obtain ⟨maxSpeed, hspeed, hspeedFits⟩ := (has_number_iff fun _ => rfl).1 hspeed
    obtain ⟨engineKw, hkw, hkwFits⟩ := (has_number_iff fun _ => rfl).1 hkw
    obtain ⟨engineRpm, hrpm, hrpmFits⟩ := (has_number_iff fun _ => rfl).1 hrpm
    obtain ⟨category, hcategory⟩ := (has_term_iff (τ := EngineCategory) fun _ => rfl).1 hcategory
    obtain ⟨tier, htier⟩ := has_tier_iff.1 htier
    obtain ⟨size, hsize, hsizeFits⟩ := (has_number_iff fun _ => rfl).1 hsize
    exact ⟨⟨⟨maxSpeed, engineKw, engineRpm, category, tier, shipType, size, sizeUnit⟩,
      hspeedFits, hkwFits, hrpmFits, hsizeFits, hfits⟩,
      hattributes, hspeed, hkw, hrpm, hcategory, htier, htype, hsize, hunit⟩

end Vessel

end ShipEmissions
