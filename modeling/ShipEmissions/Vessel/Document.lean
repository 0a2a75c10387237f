import ShipEmissions.Json.Record
import ShipEmissions.Vessel.Attributes

/-!
# Vessels as documents

A vessel is written as a record of its attributes and no other fields: numbers, words, and the tier
as an integer level.
-/

namespace ShipEmissions

namespace Vessel

/-- The vessel that a document gives. -/
def ofJson? (doc : Json) : Option (Vessel Float) :=
  match Json.record? true attributes doc with
  | some [some maxSpeed, some engineKw, some engineRpm, some category, some tier, some shipType,
      some size, some sizeUnit] => do
    Vessel.of? {
      maxSpeed := ← maxSpeed.number?
      engineKw := ← engineKw.number?
      engineRpm := ← engineRpm.number?
      engineCategory := ← category.term? EngineCategory
      noxTier := ← tier.tier?
      shipType := ← shipType.term? ShipType
      size := ← size.number?
      sizeUnit := ← sizeUnit.term? SizeUnit }
  | _ => none

/-- The vessel as a document. -/
def toJson (v : Vessel Float) : Json := .object [
  ("max_speed", .ofFloat v.maxSpeed),
  ("engine_kw", .ofFloat v.engineKw),
  ("engine_rpm", .ofFloat v.engineRpm),
  ("engine_category", .text (Vocabulary.word v.engineCategory)),
  ("engine_nox_tier", .number (.integer v.noxTier.level)),
  ("ship_type", .text (Vocabulary.word v.shipType)),
  ("size", .ofFloat v.size),
  ("size_unit", .text (Vocabulary.word v.sizeUnit))]

end Vessel

end ShipEmissions
