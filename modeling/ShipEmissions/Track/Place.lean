import ShipEmissions.Scalar

/-!
# Places, distances and bearings

Places are longitude and latitude in degrees. Distances are great-circle distances on a sphere.
Bearings are planar, which is good enough between two position reports that lie close together, and
are given in degrees clockwise from north.
-/

namespace ShipEmissions

/-- A place by longitude and latitude, in degrees. -/
structure Place (α : Type) where
  lon : α
  lat : α
  deriving BEq

namespace Place

variable {α : Type} [Scalar α]

/-- The mean radius of the earth in meters. -/
def earthRadius : Int := 6370986

/-- The great-circle distance in meters, by the haversine formula. -/
def distance (a b : Place α) : α :=
  let dlat := Scalar.toRadians b.lat - Scalar.toRadians a.lat
  let dlon := Scalar.toRadians b.lon - Scalar.toRadians a.lon
  let halfLat := Scalar.sin (dlat / 2)
  let halfLon := Scalar.sin (dlon / 2)
  let h := halfLat * halfLat +
    Scalar.cos (Scalar.toRadians a.lat) * Scalar.cos (Scalar.toRadians b.lat) * (halfLon * halfLon)
  2 * Scalar.ofInt earthRadius * Scalar.atan2 (Scalar.sqrt h) (Scalar.sqrt (1 - h))

/-- The bearing from the first place to the second, from 0 up to 360 degrees. -/
def bearing (a b : Place α) : α :=
  Scalar.remainder (Scalar.toDegrees (Scalar.atan2 (b.lon - a.lon) (b.lat - a.lat)) + 360) 360

end Place

section Units

variable {α : Type} [Scalar α]

/-- The mean of two bearings: the middle of the shorter arc between them. -/
def averageBearing (b c : α) : α :=
  let (b, c) :=
    if 180 < Scalar.size (b - c) then if b < c then (b + 360, c) else (b, c + 360) else (b, c)
  Scalar.remainder ((b + c) / 2) 360

/-- The length of a nautical mile in meters. -/
def metersPerMile : Int := 1852

/-- A distance in meters, in nautical miles. -/
def nauticalMiles (meters : α) : α := meters / Scalar.ofInt metersPerMile

end Units

end ShipEmissions
