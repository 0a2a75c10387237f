import ShipEmissions.Track.Position

/-!
# Segments

A segment leads from a position to one that is not earlier. Its distance is known, or it is the
great-circle distance between its ends.
-/

namespace ShipEmissions

/-- The way from a position to the next, with its length in meters. -/
structure Segment (α : Type) [Scalar α] where
  start : Position α
  stop : Position α
  distance : α
  start_le_stop : start.instant ≤ stop.instant

/-- Whether a number is a distance. -/
def IsDistance {α : Type} [Scalar α] (x : α) : Prop := 0 ≤ x

instance {α : Type} [Scalar α] (x : α) : Decidable (IsDistance x) :=
  inferInstanceAs (Decidable (0 ≤ x))

/-- A number that is not negative, of meters. -/
abbrev Distance (α : Type) [Scalar α] := {x : α // IsDistance x}

/-- A number as a distance. -/
def Distance.of? {α : Type} [Scalar α] (x : α) : Except (Fault α) (Distance α) :=
  if h : IsDistance x then .ok ⟨x, h⟩ else .error (.distance x)

namespace Segment

variable {α : Type} [Scalar α]

/-- The segment between two positions with a known distance. The order of the positions is checked
first. -/
def withDistance? (start stop : Position α) (distance : α) : Except (Fault α) (Segment α) :=
  if h : start.instant ≤ stop.instant then
    (Distance.of? distance).map fun distance => ⟨start, stop, distance, h⟩
  else .error .segmentReversed

/-- The segment between two positions with the great-circle distance. -/
def between? (start stop : Position α) : Except (Fault α) (Segment α) :=
  withDistance? start stop (start.place.distance stop.place)

/-- The time that a segment takes. -/
def duration (s : Segment α) : Duration := s.start.instant.timeTo s.stop.instant

/-- The time that a segment takes, in hours. -/
def hours (s : Segment α) : α := s.duration.hours

end Segment

end ShipEmissions
