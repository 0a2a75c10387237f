import ShipEmissions.Json.Record
import ShipEmissions.Track.Segment

/-!
# Hours of engine operation

Reported speeds and covered distances need not fit each other. The hours that count for a segment
are its own, stretched or shrunk until the distance that they mean at the reported speed deviates
from the covered one by no more than a share of it. They are never stretched by more than a factor.
-/

namespace ShipEmissions

/-- How far the hours of a segment may go. -/
structure HourLimits (α : Type) where
  /-- The share of the covered distance by which the reported one may deviate. -/
  deviation : α
  /-- The factor by which hours are stretched at most. -/
  increase : α

namespace HourLimits

section Hours

variable {α : Type} [Scalar α]

/-- The factor that brings a reported distance to the nearer end of the covered distance with its
deviations, if it lies outside. Nothing stretches a reported distance of zero. -/
def factor (limits : HourLimits α) (reported covered : α) : α :=
  let lower := covered * (1 - limits.deviation)
  let upper := covered * (1 + limits.deviation)
  if reported == 0 then 1
  else if reported < lower then lower / reported
  else if upper < reported then upper / reported
  else 1

/-- The mean speed over ground at the ends of a segment. -/
def meanSog (s : Segment α) : α := (s.start.sog.val + s.stop.sog.val) / 2

/-- The hours that count for a segment. -/
def hours (limits : HourLimits α) (s : Segment α) : α :=
  let factor := limits.factor (s.hours * meanSog s) (nauticalMiles s.distance)
  s.hours * Scalar.least factor limits.increase

end Hours

/-- The limits where nothing else is said. -/
def standard : HourLimits Float := ⟨0.25, 10⟩

/-- The limits that a document gives; each may be missing and is the standard one then. -/
def ofJson? (doc : Json) : Option (HourLimits Float) :=
  match Json.record? false
      ["max_fuel_calc_distance_deviation", "max_fuel_calc_duration_increase_factor"] doc with
  | some [deviation, increase] => do
    let deviation ← Json.numberOr? standard.deviation deviation
    let increase ← Json.numberOr? standard.increase increase
    return ⟨deviation, increase⟩
  | _ => none

end HourLimits

end ShipEmissions
