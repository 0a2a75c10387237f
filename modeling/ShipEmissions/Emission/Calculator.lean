import ShipEmissions.Emission.Config
import ShipEmissions.Track.Basic

/-!
# Emissions of one vessel

* `Calculator.loadAt` is the share of the propulsion power that a speed through water takes: it
  grows with the cube of the speed and is at most one.
* `Calculator.trackEmissions?` adds up what the propulsion engines emit on the segments of a track
  and what auxiliary engines and boilers emit meanwhile.
* `Calculator.mooringEmissions?` is what auxiliary engines and boilers emit while a vessel is
  moored.

Masses are in grams.
-/

namespace ShipEmissions

/-- What the emissions of a vessel are computed from. -/
structure Calculator (α : Type) [Scalar α] where
  /-- The factor by which the sea raises the load of the propulsion engines. -/
  seaMargin : α
  /-- The factors and powers of a vessel in a mode. -/
  configFor? : Vessel α → Mode → Except Error (EmissionConfig α)
  vessel : Vessel α
  /-- The hours that count for a segment. -/
  segmentHours : Segment α → α

namespace Calculator

variable {α : Type} [Scalar α]

/-- The load of the propulsion engines at a speed through water. -/
def loadAt (c : Calculator α) (stw : α) : α :=
  let ratio := stw / c.vessel.maxSpeed
  Scalar.least (ratio * ratio * ratio * c.seaMargin) 1

/-- The load of the propulsion engines on a segment: the mean of those at its ends. -/
def segmentLoad (c : Calculator α) (s : Segment α) : α :=
  (c.loadAt s.start.stw + c.loadAt s.stop.stw) / 2

/-- What the propulsion engines emit on a segment. The first adjustment for the load counts. -/
def segmentEmissions (c : Calculator α) (config : EmissionConfig α) (s : Segment α) :
    Pollutants α :=
  let load := c.segmentLoad s
  let masses := config.emissions .propulsion (c.vessel.engineKw * c.segmentHours s * load)
  match config.adjustmentAt? load with
  | some factors => masses.adjust factors
  | none => masses

/-- What a group of engines emits that runs at a fixed power for some hours. -/
def fixedEmissions? (config : EmissionConfig α) (hours : α) (group : EngineGroup) :
    Except Error (Pollutants α) :=
  (config.power? group).map fun kw => config.emissions group (kw * hours)

/-- What auxiliary engines and boilers emit in some hours, on top of other emissions. -/
def withFixedEmissions? (config : EmissionConfig α) (hours : α) (masses : Pollutants α) :
    Except Error (Pollutants α) :=
  (EngineGroup.nonPropulsion.mapM (fixedEmissions? config hours)).map fun maps =>
    maps.foldl Pollutants.add masses

/-- What a vessel emits on a track, in a mode in which vessels move. -/
def trackEmissions? (c : Calculator α) (t : Track α) (mode : Mode) :
    Except Error (Pollutants α) :=
  if mode.isMoving then do
    let config ← c.configFor? c.vessel mode
    withFixedEmissions? config t.hours (.total (t.segments.map (c.segmentEmissions config)))
  else .error (.modeNotMoving mode)

/-- What a vessel emits while it is moored for some time, in a mode in which vessels do not move. -/
def mooringEmissions? (c : Calculator α) (time : Duration) (mode : Mode) :
    Except Error (Pollutants α) :=
  if mode.isMoving then .error (.modeMoving mode)
  else do
    let config ← c.configFor? c.vessel mode
    withFixedEmissions? config time.hours ∅

end Calculator

end ShipEmissions
