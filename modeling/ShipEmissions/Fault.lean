import ShipEmissions.Decimal.Style
import ShipEmissions.Time

/-!
# Faults of positions and tracks

Why a position, a segment or a track cannot be built or changed. A fault says which value is at
fault; `Fault.text` puts it into words. An `Edit` changes something in place until it meets a fault.
-/

namespace ShipEmissions

/-- What a speed is measured against. -/
inductive SpeedKind where
  | overGround
  | throughWater
  | tide
  deriving DecidableEq, Repr

/-- How messages call a speed. -/
def SpeedKind.text : SpeedKind → String
  | .overGround => "sog"
  | .throughWater => "stw"
  | .tide => "tide_flow"

/-- What a bearing belongs to. -/
inductive BearingKind where
  | course
  | heading
  | tide
  deriving DecidableEq, Repr

/-- How messages call a bearing. -/
def BearingKind.text : BearingKind → String
  | .course => "cog"
  | .heading => "heading"
  | .tide => "tide_bearing"

/-- Why a position, a segment or a track cannot be built. -/
inductive Fault (α : Type) where
  /-- The value is no longitude. -/
  | longitude (x : α)
  /-- The value is no latitude. -/
  | latitude (x : α)
  /-- The value is no speed. -/
  | speed (kind : SpeedKind) (x : α)
  /-- The value is no bearing. -/
  | bearing (kind : BearingKind) (x : α)
  /-- The value is no distance. -/
  | distance (x : α)
  /-- The value is no finite number of seconds. -/
  | instantNotFinite (x : α)
  /-- The seconds lie outside all years that have a date. -/
  | instantOutOfRange (x : α)
  /-- A segment would end before it starts. -/
  | segmentReversed
  /-- A position would follow a later one. -/
  | positionOlder (position last : Instant)
  /-- A track of `positions` positions has no segment `index`. -/
  | noSegment (index positions : Nat)
  /-- A period would end before it starts. -/
  | periodReversed
  /-- A window would hold no past items. -/
  | emptyPast
  /-- The end of a window lies beyond all indices of 64 bits. -/
  | indexOverflow
  deriving DecidableEq

/-- Whether a fault lies in a value of a record, and not in what was asked for. -/
def Fault.isValueFault {α : Type} : Fault α → Bool
  | .noSegment _ _ => false
  | .periodReversed => false
  | .emptyPast => false
  | .indexOverflow => false
  | _ => true

/-- The fault in words. -/
def Fault.text : Fault Float → String
  | .longitude x => "longitude must be in [-180, 180), got " ++ NumberStyle.plain.text x
  | .latitude x => "latitude must be in [-90, 90], got " ++ NumberStyle.plain.text x
  | .speed kind x => kind.text ++ " must be non-negative, got " ++ NumberStyle.plain.text x
  | .bearing kind x => kind.text ++ " must be in [0, 360), got " ++ NumberStyle.plain.text x
  | .distance x => "distance must be non-negative, got " ++ NumberStyle.plain.text x
  | .instantNotFinite x => "timestamp must be finite, got " ++ NumberStyle.plain.text x
  | .instantOutOfRange x => "timestamp out of range: " ++ NumberStyle.plain.text x
  | .segmentReversed => "segment start must not be after its end"
  | .positionOlder position last =>
    "position at " ++ position.text ++ " is older than the last one at " ++ last.text
  | .noSegment index positions =>
    "no segment " ++ toString index ++ " in a track of " ++ toString positions ++ " positions"
  | .periodReversed => "start must not be after end"
  | .emptyPast => "past context size must be at least 1"
  | .indexOverflow => "window end beyond the largest index"

/-- Steps that change a state in place until one of them fails. -/
abbrev Edit (σ α : Type) := ExceptT (Fault α) (StateM σ)

/-- What steps answer, and the state that they leave. -/
def Edit.on {σ α β : Type} (edit : Edit σ α β) (s : σ) : Except (Fault α) β × σ := edit.run.run s

end ShipEmissions
