import ShipEmissions.Fault
import ShipEmissions.Track.Place

/-!
# Positions

A position says where a ship was at an instant, how fast and in which direction it moved over
ground, where it headed, and how the water flowed there. Speeds are in knots and bearings in degrees
from north; the bearing of a tide is the one that the water flows towards.

* `Position.of?` checks every value, so that the values of a position make sense by their types.
* `Position.stw` is the speed through water: a given one, or the one that the tide leaves of the
  speed over ground. Giving another tide drops a given speed through water.
-/

namespace ShipEmissions

/-! ## Quantities -/

section Quantities

variable {α : Type} [Scalar α]

/-- Whether a number is a longitude. -/
def IsLongitude (x : α) : Prop := -180 ≤ x ∧ x < 180

/-- Whether a number is a latitude. -/
def IsLatitude (x : α) : Prop := -90 ≤ x ∧ x ≤ 90

/-- Whether a number is a speed. -/
def IsSpeed (x : α) : Prop := 0 ≤ x

/-- Whether a number is a bearing. -/
def IsBearing (x : α) : Prop := 0 ≤ x ∧ x < 360

instance (x : α) : Decidable (IsLongitude x) := inferInstanceAs (Decidable (-180 ≤ x ∧ x < 180))

instance (x : α) : Decidable (IsLatitude x) := inferInstanceAs (Decidable (-90 ≤ x ∧ x ≤ 90))

instance (x : α) : Decidable (IsSpeed x) := inferInstanceAs (Decidable (0 ≤ x))

instance (x : α) : Decidable (IsBearing x) := inferInstanceAs (Decidable (0 ≤ x ∧ x < 360))

end Quantities

/-- A number from -180 up to 180. -/
abbrev Longitude (α : Type) [Scalar α] := {x : α // IsLongitude x}

/-- A number from -90 to 90. -/
abbrev Latitude (α : Type) [Scalar α] := {x : α // IsLatitude x}

/-- A number that is not negative. -/
abbrev Speed (α : Type) [Scalar α] := {x : α // IsSpeed x}

/-- A number from 0 up to 360. -/
abbrev Bearing (α : Type) [Scalar α] := {x : α // IsBearing x}

section Checks

variable {α : Type} [Scalar α]

/-- A number as a longitude. -/
def Longitude.of? (x : α) : Except (Fault α) (Longitude α) :=
  if h : IsLongitude x then .ok ⟨x, h⟩ else .error (.longitude x)

/-- A number as a latitude. -/
def Latitude.of? (x : α) : Except (Fault α) (Latitude α) :=
  if h : IsLatitude x then .ok ⟨x, h⟩ else .error (.latitude x)

/-- A number as a speed. -/
def Speed.of? (kind : SpeedKind) (x : α) : Except (Fault α) (Speed α) :=
  if h : IsSpeed x then .ok ⟨x, h⟩ else .error (.speed kind x)

/-- A number as a bearing. -/
def Bearing.of? (kind : BearingKind) (x : α) : Except (Fault α) (Bearing α) :=
  if h : IsBearing x then .ok ⟨x, h⟩ else .error (.bearing kind x)

/-- The instant that a number of seconds since the start of 1970 stands for, to the nearest
millisecond. -/
def Instant.ofSeconds? (seconds : α) : Except (Fault α) Instant :=
  if Scalar.isFinite seconds then
    let instant := Instant.ofMillis (Scalar.round (seconds * 1000))
    if .earliest ≤ instant ∧ instant ≤ .latest then .ok instant
    else .error (.instantOutOfRange seconds)
  else .error (.instantNotFinite seconds)

end Checks

/-! ## Tides -/

/-- How the water flows. -/
structure Tide (α : Type) [Scalar α] where
  flow : Speed α
  bearing : Bearing α

namespace Tide

variable {α : Type} [Scalar α]

/-- Water that does not flow. -/
def still : Tide α := ⟨⟨0, Scalar.zero_le_zero⟩, ⟨0, Scalar.zero_le_zero, Scalar.zero_lt_turn⟩⟩

/-- The tide with another speed. -/
def withFlow? (tide : Tide α) (x : α) : Except (Fault α) (Tide α) :=
  (Speed.of? .tide x).map fun flow => { tide with flow }

/-- The tide with another bearing. -/
def withBearing? (tide : Tide α) (x : α) : Except (Fault α) (Tide α) :=
  (Bearing.of? .tide x).map fun bearing => { tide with bearing }

/-- The tide of a speed and a bearing; the speed is checked first. -/
def of? (flow bearing : α) : Except (Fault α) (Tide α) := do
  let flow ← Speed.of? .tide flow
  let bearing ← Bearing.of? .tide bearing
  return ⟨flow, bearing⟩

end Tide

/-- The speed through water of a ship whose motion over ground is the sum of its motion through
water and the tide, by the law of cosines. -/
def speedThroughWater {α : Type} [Scalar α] (sog cog flow bearing : α) : α :=
  if flow == 0 then sog
  else
    let square :=
      sog * sog + flow * flow - 2 * sog * flow * Scalar.cos (Scalar.toRadians (cog - bearing))
    Scalar.sqrt (Scalar.greatest square 0)

/-! ## Positions -/

/-- Where a ship was at an instant, and how it moved. -/
structure Position (α : Type) [Scalar α] where
  instant : Instant
  lon : Longitude α
  lat : Latitude α
  /-- The speed over ground. -/
  sog : Speed α
  /-- The course over ground. -/
  cog : Bearing α
  heading : Bearing α
  tide : Tide α
  /-- The speed through water, where it is known. -/
  givenStw : Option (Speed α)

namespace Position

variable {α : Type} [Scalar α]

/-- A position in still water. -/
def of? (instant : Instant) (lon lat sog cog heading : α) : Except (Fault α) (Position α) := do
  let lon ← Longitude.of? lon
  let lat ← Latitude.of? lat
  let sog ← Speed.of? .overGround sog
  let cog ← Bearing.of? .course cog
  let heading ← Bearing.of? .heading heading
  return { instant, lon, lat, sog, cog, heading, tide := .still, givenStw := none }

/-- The place of a position. -/
def place (p : Position α) : Place α := ⟨p.lon, p.lat⟩

/-- The position with another tide. A known speed through water is forgotten. -/
def setTide (p : Position α) (tide : Tide α) : Position α := { p with tide, givenStw := none }

/-- The position with another speed of the tide. -/
def setTideFlow? (p : Position α) (x : α) : Except (Fault α) (Position α) :=
  (p.tide.withFlow? x).map p.setTide

/-- The position with another bearing of the tide. -/
def setTideBearing? (p : Position α) (x : α) : Except (Fault α) (Position α) :=
  (p.tide.withBearing? x).map p.setTide

/-- The position with a tide of this speed and this bearing. -/
def withTide? (p : Position α) (flow bearing : α) : Except (Fault α) (Position α) :=
  (Tide.of? flow bearing).map p.setTide

/-- The position with a known speed through water. -/
def withStw? (p : Position α) (x : α) : Except (Fault α) (Position α) :=
  (Speed.of? .throughWater x).map fun stw => { p with givenStw := some stw }

/-- The speed through water that follows from the tide. -/
def derivedStw (p : Position α) : α := speedThroughWater p.sog p.cog p.tide.flow p.tide.bearing

/-- The speed through water. -/
def stw (p : Position α) : α :=
  match p.givenStw with
  | some stw => stw
  | none => p.derivedStw

/-- Positions are equal if everything but a known speed through water is. -/
instance : BEq (Position α) where
  beq p q := p.instant == q.instant && p.lon.val == q.lon.val && p.lat.val == q.lat.val &&
    p.sog.val == q.sog.val && p.cog.val == q.cog.val && p.heading.val == q.heading.val &&
    p.tide.flow.val == q.tide.flow.val && p.tide.bearing.val == q.tide.bearing.val

end Position

end ShipEmissions
