import ShipEmissions.Rule.Basic
import ShipEmissions.Vocabulary.Reader

/-!
# Vessels as bags of attributes

Rules see a vessel as a bag with one attribute for each of its particulars. `Vessel.toBag` gives the
bag, `Vessel.ofBag?` builds a vessel from a bag that holds exactly these attributes.
-/

namespace ShipEmissions

namespace Vessel

/-- The attributes of a vessel. -/
def attributes : List String := ["max_speed", "engine_kw", "engine_rpm", "engine_category",
  "engine_nox_tier", "ship_type", "size", "size_unit"]

/-- Whether a name is an attribute of vessels. -/
def isAttribute (name : String) : Bool := attributes.contains name

/-- The attributes of a vessel with their values. -/
def toBag (v : Vessel Float) : Bag := .ofList [
  ("max_speed", .number v.maxSpeed),
  ("engine_kw", .number v.engineKw),
  ("engine_rpm", .number v.engineRpm),
  ("engine_category", .ofTerm v.engineCategory),
  ("engine_nox_tier", .ofTier v.noxTier),
  ("ship_type", .ofTerm v.shipType),
  ("size", .number v.size),
  ("size_unit", .ofTerm v.sizeUnit)]

/-- An attribute that has to be there and not null. -/
def attribute? (bag : Bag) (name : String) : Except Error Value :=
  match bag.present? name with
  | some v => .ok v
  | none => .error (.attributeMissing name)

/-- An attribute that has to be a number. -/
def numberAttribute? (bag : Bag) (name : String) : Except Error Float := do
  let v ← attribute? bag name
  match v.number? with
  | some x => .ok x
  | none => .error (.attributeNotNumber name v)

/-- An attribute that has to be a word of a vocabulary. -/
def termAttribute? (τ : Type) [Vocabulary τ] (bag : Bag) (name : String) : Except Error τ := do
  let v ← attribute? bag name
  Error.ofWord (v.readTerm? τ)

/-- The tier that a value gives by its level. -/
def tierOf? (v : Value) : Except Error NoxTier :=
  match v.tier? with
  | some t => .ok t
  | none => .error (.tierRefused v)

/-- The particulars that a bag of exactly the attributes of vessels gives. -/
def particularsOfBag? (bag : Bag) : Except Error (Particulars Float) := do
  match bag.keys.find? fun name => !isAttribute name with
  | some name => .error (.attributeUnknown name)
  | none =>
    let tier ← attribute? bag "engine_nox_tier"
    let maxSpeed ← numberAttribute? bag "max_speed"
    let engineKw ← numberAttribute? bag "engine_kw"
    let engineRpm ← numberAttribute? bag "engine_rpm"
    let engineCategory ← termAttribute? EngineCategory bag "engine_category"
    let noxTier ← tierOf? tier
    let shipType ← termAttribute? ShipType bag "ship_type"
    let size ← numberAttribute? bag "size"
    let sizeUnit ← termAttribute? SizeUnit bag "size_unit"
    return ⟨maxSpeed, engineKw, engineRpm, engineCategory, noxTier, shipType, size, sizeUnit⟩

/-- The vessel with these particulars; particulars that make no sense together are shown. -/
def check? (p : Particulars Float) : Except Error (Vessel Float) :=
  match Vessel.of? p with
  | some v => .ok v
  | none => .error (.particularsRefused p)

/-- The vessel that a bag of exactly the attributes of vessels gives. -/
def ofBag? (bag : Bag) : Except Error (Vessel Float) := particularsOfBag? bag >>= check?

end Vessel

end ShipEmissions
