import ShipEmissions.Decimal.Style
import ShipEmissions.Scalar
import ShipEmissions.Text.Quoted
import ShipEmissions.Vocabulary.Engine
import ShipEmissions.Vocabulary.Ship

/-!
# Vessels

The eight particulars of a vessel, and when they make sense together: speed, power and revolutions
are positive, the size is not negative, and its unit is one in which ships of that type are
measured. A `Vessel` is a set of particulars that are `Valid`.
-/

namespace ShipEmissions

/-- What is known about a vessel and its main engine. -/
structure Particulars (α : Type) where
  /-- Design speed in knots. -/
  maxSpeed : α
  /-- Installed power of the main engine in kW. -/
  engineKw : α
  /-- Revolutions of the main engine per minute. -/
  engineRpm : α
  engineCategory : EngineCategory
  noxTier : NoxTier
  shipType : ShipType
  /-- Size in `sizeUnit`. -/
  size : α
  sizeUnit : SizeUnit

namespace Particulars

variable {α : Type} [Scalar α]

/-- The particulars make sense together. -/
def Valid (p : Particulars α) : Prop :=
  0 < p.maxSpeed ∧ 0 < p.engineKw ∧ 0 < p.engineRpm ∧ 0 ≤ p.size ∧ p.sizeUnit ∈ p.shipType.sizeUnits

instance (p : Particulars α) : Decidable p.Valid :=
  inferInstanceAs (Decidable (0 < p.maxSpeed ∧ 0 < p.engineKw ∧ 0 < p.engineRpm ∧ 0 ≤ p.size ∧
    p.sizeUnit ∈ p.shipType.sizeUnits))

/-- The particulars as data. -/
def shown (p : Particulars Float) : String :=
  Text.record "VesselInfo" [
    ("max_speed", NumberStyle.detailed.text p.maxSpeed),
    ("engine_kw", NumberStyle.detailed.text p.engineKw),
    ("engine_rpm", NumberStyle.detailed.text p.engineRpm),
    ("engine_category", Vocabulary.shown p.engineCategory),
    ("engine_nox_tier", p.noxTier.shown),
    ("ship_type", Vocabulary.shown p.shipType),
    ("size", NumberStyle.detailed.text p.size),
    ("size_unit", Vocabulary.shown p.sizeUnit)]

end Particulars

/-- A vessel whose particulars make sense together. -/
structure Vessel (α : Type) [Scalar α] extends Particulars α where
  valid : toParticulars.Valid

/-- The vessel with these particulars, if they make sense together. -/
def Vessel.of? {α : Type} [Scalar α] (p : Particulars α) : Option (Vessel α) :=
  if h : p.Valid then some ⟨p, h⟩ else none

end ShipEmissions
