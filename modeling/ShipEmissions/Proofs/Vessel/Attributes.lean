import ShipEmissions.Proofs.Alike
import ShipEmissions.Proofs.Vessel

/-!
# Vessels and their bags

A vessel and the bag of its attributes are two forms of the same data. What makes a bag one of a
vessel is said without the reader of bags: which names it has, of which sort its values are and what
holds of them. A bag may give the lowest tier by a negative zero. The bag that the vessel gives back
has the other zero then, so it is equal to the given one but need not be the same.

* `Value.exists_tier?_iff`: a value is a tier if it is a number equal to one of the four levels.
* `Vessel.WellFormed`, `Vessel.wellFormed_iff`: the bags that are read as vessels.
* `Vessel.toBag_beq`: a bag is equal to that of the vessel it is read as.
* `Vessel.errors_ofBag?`: a bag that is no vessel is an invalid value.
* `Vessel.ofBag?_inverse`: all of this about reading bags.
-/

namespace ShipEmissions

/-! ## Tiers -/

namespace Value

variable {value : Value}

theorem tier?_eq_some {t : NoxTier} (h : value.tier? = some t) :
    ∃ x, value = .number x ∧ (Float.ofNat t.level == x) = true := by
  obtain ⟨x, hx, hfind⟩ := Option.bind_eq_some_iff.1 h
  have hlevel := List.find?_some hfind
  exact ⟨x, number?_eq_some_iff.1 hx, hlevel⟩

/-- The tiers are the numbers that are equal to a level. -/
theorem exists_tier?_iff :
    (∃ t, value.tier? = some t) ↔
      ∃ x : Float, value = .number x ∧ (x == 0 ∨ x == 1 ∨ x == 2 ∨ x == 3) := by
  have hlevels : ∀ x : Float, (∃ t, (number x).tier? = some t) ↔
      (x == 0 ∨ x == 1 ∨ x == 2 ∨ x == 3) := by
    intro x
    show (∃ t, NoxTier.all.find? (fun t => Float.ofNat t.level == x) = some t) ↔ _
    simp only [← Option.isSome_iff_exists, List.find?_isSome, Binary.float_beq_comm (x := x),
      NoxTier.all, List.exists_mem_cons_iff, List.not_mem_nil, false_and, exists_false, or_false]
    exact Iff.rfl
  constructor
  · rintro ⟨t, ht⟩
    obtain ⟨x, rfl, -⟩ := tier?_eq_some ht
    exact ⟨x, rfl, (hlevels x).1 ⟨t, ht⟩⟩
  · rintro ⟨x, rfl, hx⟩
    exact (hlevels x).2 hx

end Value

namespace Vessel

variable {bag : Bag} {name : String} {v : Vessel Float}

/-! ## Bags that are vessels -/

/-- The bag has the attributes of a vessel for its names, with values that make sense. -/
structure WellFormed (bag : Bag) : Prop where
  names : ∀ name, name ∈ bag ↔ name ∈ attributes
  maxSpeed : ∃ x : Float, bag["max_speed"]? = some (.number x) ∧ 0 < x
  engineKw : ∃ x : Float, bag["engine_kw"]? = some (.number x) ∧ 0 < x
  engineRpm : ∃ x : Float, bag["engine_rpm"]? = some (.number x) ∧ 0 < x
  engineCategory : ∃ c : EngineCategory,
    bag["engine_category"]? = some (.text (Vocabulary.word c))
  noxTier : ∃ x : Float, bag["engine_nox_tier"]? = some (.number x) ∧
    (x == 0 ∨ x == 1 ∨ x == 2 ∨ x == 3)
  size : ∃ x : Float, bag["size"]? = some (.number x) ∧ 0 ≤ x
  typeAndUnit : ∃ (t : ShipType) (u : SizeUnit),
    bag["ship_type"]? = some (.text (Vocabulary.word t)) ∧
    bag["size_unit"]? = some (.text (Vocabulary.word u)) ∧ u ∈ t.sizeUnits

theorem wellFormed_of_ofBag? (h : ofBag? bag = .ok v) : WellFormed bag := by
  have hbag := ofBag?_eq_ok_iff.1 h
  obtain ⟨hspeed, hkw, hrpm, hsize, hunit⟩ := v.valid
  obtain ⟨tier, htier, hnox⟩ := Option.bind_eq_some_iff.1 hbag.noxTier
  obtain ⟨x, rfl, hx⟩ := Value.exists_tier?_iff.1 ⟨_, hnox⟩
  refine ⟨fun name => ⟨fun hname => Bag.isAttribute_iff.1 (hbag.attributes name hname), ?_⟩,
    ⟨_, hbag.maxSpeed, hspeed⟩, ⟨_, hbag.engineKw, hkw⟩, ⟨_, hbag.engineRpm, hrpm⟩,
    ⟨_, hbag.engineCategory⟩, ⟨x, htier, hx⟩, ⟨_, hbag.size, hsize⟩,
    ⟨_, _, hbag.shipType, hbag.sizeUnit, hunit⟩⟩
  intro hname
  obtain ⟨value, hvalue, -⟩ := (exists_ofBag?_iff.1 ⟨v, h⟩).has name hname
  exact Bag.mem_iff.2 ⟨value, hvalue⟩

theorem WellFormed.exists_ofBag? (h : WellFormed bag) : ∃ v, ofBag? bag = .ok v := by
  obtain ⟨hnames, ⟨maxSpeed, hspeed, hspeedFits⟩, ⟨engineKw, hkw, hkwFits⟩,
    ⟨engineRpm, hrpm, hrpmFits⟩, ⟨category, hcategory⟩, ⟨x, htier, hx⟩, ⟨size, hsize, hsizeFits⟩,
    ⟨shipType, sizeUnit, htype, hunit, hunitFits⟩⟩ := h
  obtain ⟨tier, hnox⟩ := Value.exists_tier?_iff.2 ⟨x, rfl, hx⟩
  let v : Vessel Float :=
    ⟨⟨maxSpeed, engineKw, engineRpm, category, tier, shipType, size, sizeUnit⟩,
      hspeedFits, hkwFits, hrpmFits, hsizeFits, hunitFits⟩
  refine ⟨v, ofBag?_eq_ok_iff.2 ⟨fun name hname => Bag.isAttribute_iff.2 ((hnames name).1 hname),
    hspeed, hkw, hrpm, hcategory, ?_, htype, hsize, hunit⟩⟩
  rw [htier, Option.bind_some, hnox]

theorem wellFormed_iff : (∃ v, ofBag? bag = .ok v) ↔ WellFormed bag :=
  ⟨fun ⟨_, h⟩ => wellFormed_of_ofBag? h, WellFormed.exists_ofBag?⟩

/-! ## The bag of the vessel that a bag is read as -/

theorem toBag_noxTier (v : Vessel Float) :
    v.toBag["engine_nox_tier"]? = some (.ofTier v.noxTier) :=
  Bag.getElem?_ofList_of_mem Bag.nodup_attributes (by simp)

/-- The values of a vessel's bag are those of the bag it was read from, apart from the sign of a
zero. -/
theorem toBag_beq (h : ofBag? bag = .ok v) : (v.toBag == bag) = true := by
  have hbag := ofBag?_eq_ok_iff.1 h
  have hown := describes_toBag v
  obtain ⟨hspeed, hkw, hrpm, hsize, -⟩ := v.valid
  have hpositive : ∀ {x : Float}, 0 < x → (some (Value.number x) == some (.number x)) = true :=
    Binary.beq_self_of_lt
  have hterm : ∀ {τ : Type} [Vocabulary τ] (t : τ),
      (some (Value.ofTerm t) == some (.ofTerm t)) = true :=
    fun _ => Value.ofTerm_beq_iff.2 rfl
  have hentries : ∀ name ∈ attributes, (bag[name]? == v.toBag[name]?) = true := by
    simp only [attributes, List.forall_mem_cons]
    refine ⟨?_, ?_, ?_, ?_, ?_, ?_, ?_, ?_, ?_⟩
    · rw [hbag.maxSpeed, hown.maxSpeed]
      exact hpositive hspeed
    · rw [hbag.engineKw, hown.engineKw]
      exact hpositive hkw
    · rw [hbag.engineRpm, hown.engineRpm]
      exact hpositive hrpm
    · rw [hbag.engineCategory, hown.engineCategory]
      exact hterm _
    · obtain ⟨tier, htier, hnox⟩ := Option.bind_eq_some_iff.1 hbag.noxTier
      obtain ⟨x, rfl, hx⟩ := Value.tier?_eq_some hnox
      rw [htier, toBag_noxTier]
      exact Binary.float_beq_comm.trans hx
    · rw [hbag.shipType, hown.shipType]
      exact hterm _
    · rw [hbag.size, hown.size]
      exact Binary.beq_self_of_le hsize
    · rw [hbag.sizeUnit, hown.sizeUnit]
      exact hterm _
    · intro name hname
      cases hname
  have hlength : ∀ {bag : Bag}, ofBag? bag = .ok v → bag.size = attributes.length := fun hread =>
    (Bag.size_eq_iff (ofBag?_eq_ok_iff.1 hread).attributes).2 fun name =>
      ((wellFormed_of_ofBag? hread).names name).2
  refine Bag.beq_iff.2 ⟨(hlength (ofBag?_toBag v)).trans (hlength h).symm, ?_⟩
  intro name value hvalue
  have hname := Bag.isAttribute_iff.1 (hown.attributes name (Bag.mem_iff.2 ⟨value, hvalue⟩))
  rw [← hvalue]
  exact hentries name hname

/-! ## Errors -/

open Outcome (ErrorsAre)

/-- All errors of a computation are about a value. -/
abbrev InvalidValue {α : Type} (x : Except Error α) : Prop := ErrorsAre (fun e => e.kind = .value) x

theorem errors_attribute? : InvalidValue (attribute? bag name) := by
  rw [attribute?]
  split
  · exact .ok _
  · exact .error rfl

theorem errors_numberAttribute? : InvalidValue (numberAttribute? bag name) := by
  refine errors_attribute?.bind fun value _ => ?_
  cases value.number? with
  | some x => exact .ok x
  | none => exact .error rfl

theorem errors_termAttribute? {τ : Type} [Vocabulary τ]
    (hkind : ∀ word, (Error.word (.unknown (Vocabulary.kind τ) word)).kind = .value)
    (hpath : ∀ word, (Error.word (.unknown (Vocabulary.path τ) word)).kind = .value) :
    InvalidValue (termAttribute? τ bag name) := by
  refine errors_attribute?.bind fun value _ => ?_
  cases value with
  | text s =>
    rw [Value.readTerm?, Vocabulary.read?]
    cases Vocabulary.ofWord? (τ := τ) s with
    | some t => exact .ok t
    | none => exact .error (hkind s)
  | null => exact .error (hpath _)
  | boolean b => exact .error (hpath _)
  | number x => exact .error (hpath _)

theorem errors_tierOf? (value : Value) : InvalidValue (tierOf? value) := by
  rw [tierOf?]
  split
  · exact .ok _
  · exact .error rfl

theorem errors_particularsOfBag? : InvalidValue (particularsOfBag? bag) := by
  rw [particularsOfBag?]
  split
  · exact .error rfl
  · refine errors_attribute?.bind fun tier _ => ?_
    refine errors_numberAttribute?.bind fun maxSpeed _ => ?_
    refine errors_numberAttribute?.bind fun engineKw _ => ?_
    refine errors_numberAttribute?.bind fun engineRpm _ => ?_
    refine (errors_termAttribute? (fun _ => rfl) fun _ => rfl).bind fun category _ => ?_
    refine (errors_tierOf? tier).bind fun noxTier _ => ?_
    refine (errors_termAttribute? (fun _ => rfl) fun _ => rfl).bind fun shipType _ => ?_
    refine errors_numberAttribute?.bind fun size _ => ?_
    refine (errors_termAttribute? (fun _ => rfl) fun _ => rfl).bind fun sizeUnit _ => ?_
    exact .ok _

/-- A bag that is not read as a vessel is an invalid value. -/
theorem errors_ofBag? : InvalidValue (ofBag? bag) := by
  refine errors_particularsOfBag?.bind fun p _ => ?_
  rw [check?]
  split
  · exact .ok _
  · exact .error rfl

/-! ## Reading bags -/

/-- The bags that are read as vessels are the well-formed ones. The bag of a vessel is read as that
vessel, and every bag is equal to that of the vessel it is read as. Any other bag is an invalid
value. -/
theorem ofBag?_inverse :
    (∀ bag, (∃ v, ofBag? bag = .ok v) ↔ WellFormed bag) ∧
      (∀ v : Vessel Float, ofBag? v.toBag = .ok v) ∧
      (∀ bag v, ofBag? bag = .ok v → (v.toBag == bag) = true) ∧
      ∀ bag e, ofBag? bag = .error e → e.kind = .value :=
  ⟨fun _ => wellFormed_iff, ofBag?_toBag, fun _ _ => toBag_beq, fun _ => errors_ofBag?⟩

/-- A tug whose tier is given by a negative zero. -/
def sampleBag : Bag := .ofList [
  ("max_speed", .number 12),
  ("engine_kw", .number 1500),
  ("engine_rpm", .number 900),
  ("engine_category", .text "c2"),
  ("engine_nox_tier", .number (-0.0)),
  ("ship_type", .text "tug"),
  ("size", .number 0),
  ("size_unit", .text "n/a")]

theorem wellFormed_sampleBag : WellFormed sampleBag := by
  have hget : ∀ {name : String} {value : Value}, (name, value) ∈ _ →
      sampleBag[name]? = some value :=
    fun hmem => Bag.getElem?_ofList_of_mem Bag.nodup_attributes hmem
  exact {
    names := fun name => Bag.mem_ofList_iff
    maxSpeed := ⟨12, hget (by simp), by decide⟩
    engineKw := ⟨1500, hget (by simp), by decide⟩
    engineRpm := ⟨900, hget (by simp), by decide⟩
    engineCategory := ⟨.c2, hget (by simp [Vocabulary.word])⟩
    noxTier := ⟨-0.0, hget (by simp), .inl rfl⟩
    size := ⟨0, hget (by simp), by decide⟩
    typeAndUnit := ⟨.tug, .notApplicable, hget (by simp [Vocabulary.word]),
      hget (by simp [Vocabulary.word]), by decide⟩ }

/-- The negative zero is read as the lowest tier, and given back as a positive one. Without any
attribute there is no vessel. -/
theorem ofBag?_inverse_negative_zero :
    (∃ v, ofBag? sampleBag = .ok v ∧ (v.toBag == sampleBag) = true ∧ v.toBag ≠ sampleBag) ∧
      ∃ e, ofBag? ∅ = .error e ∧ e.kind = .value := by
  obtain ⟨haccepted, -, hequal, hrefused⟩ := ofBag?_inverse
  obtain ⟨v, hv⟩ := (haccepted sampleBag).2 wellFormed_sampleBag
  refine ⟨⟨v, hv, hequal _ v hv, fun hsame => ?_⟩, .attributeMissing "engine_nox_tier", rfl,
    hrefused ∅ _ rfl⟩
  have hgiven : sampleBag["engine_nox_tier"]? = some (.number (-0.0)) :=
    Bag.getElem?_ofList_of_mem Bag.nodup_attributes (by simp)
  have htier := Option.some.inj ((hsame ▸ toBag_noxTier v).symm.trans hgiven)
  have hbits := congrArg Float.toBits (Value.number.inj htier)
  revert hbits
  cases v.noxTier <;> decide

end Vessel

end ShipEmissions
