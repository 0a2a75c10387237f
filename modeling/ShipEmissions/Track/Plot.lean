import ShipEmissions.Track.Position

/-!
# Plots

A plot is a position that is worked with: its tide changes where it stands, and its speed through
water is worked out when it is asked for. One note keeps that speed, be it given or worked out,
until the tide changes.

* `Plot.setTideFlow`, `Plot.setTideBearing` change the tide in place.
* `Plot.withTide?`, `Plot.withStw?` make another plot of one.
* `Plot.stw` reads the speed through water and notes it.
-/

namespace ShipEmissions

variable {α : Type} [Scalar α]

/-- A position with a note of its speed through water. -/
structure Plot (α : Type) [Scalar α] where
  instant : Instant
  lon : Longitude α
  lat : Latitude α
  /-- The speed over ground. -/
  sog : Speed α
  /-- The course over ground. -/
  cog : Bearing α
  heading : Bearing α
  tide : Tide α
  /-- The speed through water that was given or worked out since the tide changed. -/
  noted : Option α

/-- The position as a plot, on which a given speed through water is noted. -/
def Position.plot (p : Position α) : Plot α :=
  { instant := p.instant, lon := p.lon, lat := p.lat, sog := p.sog, cog := p.cog,
    heading := p.heading, tide := p.tide, noted := p.givenStw.map Subtype.val }

namespace Plot

/-- A plot in still water. -/
def of? (instant : Instant) (lon lat sog cog heading : α) : Except (Fault α) (Plot α) :=
  (Position.of? instant lon lat sog cog heading).map Position.plot

/-- The plot without its note. -/
def position (p : Plot α) : Position α :=
  { instant := p.instant, lon := p.lon, lat := p.lat, sog := p.sog, cog := p.cog,
    heading := p.heading, tide := p.tide, givenStw := none }

/-- Plots are equal if everything but the note is. -/
instance : BEq (Plot α) where
  beq p q := p.position == q.position

/-! ## Changes in place -/

/-- Changes the tide, if the change makes sense. What was noted goes once the tide has changed. -/
def editTide (change : Tide α → Except (Fault α) (Tide α)) : Edit (Plot α) α Unit := do
  let tide ← ofExcept (change (← get).tide)
  modify fun p => { p with tide }
  modify fun p => { p with noted := none }

/-- Changes the speed of the tide. -/
def setTideFlow (x : α) : Edit (Plot α) α Unit := editTide (·.withFlow? x)

/-- Changes the bearing of the tide. -/
def setTideBearing (x : α) : Edit (Plot α) α Unit := editTide (·.withBearing? x)

/-! ## Other plots -/

/-- What steps make of the plot, if they go through to the end. -/
def edited? (p : Plot α) (edit : Edit (Plot α) α Unit) : Except (Fault α) (Plot α) :=
  match edit.on p with
  | (.ok _, p') => .ok p'
  | (.error fault, _) => .error fault

/-- The plot with a tide of this speed and this bearing. -/
def withTide? (p : Plot α) (flow bearing : α) : Except (Fault α) (Plot α) :=
  p.edited? do
    setTideFlow flow
    setTideBearing bearing

/-- The plot with a known speed through water. -/
def withStw? (p : Plot α) (x : α) : Except (Fault α) (Plot α) :=
  p.edited? do
    let stw ← ofExcept (Speed.of? .throughWater x)
    modify fun p => { p with noted := some stw.val }

/-! ## Reading -/

/-- The speed through water: what is noted, or what follows from the tide, which is noted then. -/
def stw : StateM (Plot α) α := do
  let p ← get
  match p.noted with
  | some stw => return stw
  | none =>
    let stw := speedThroughWater p.sog.val p.cog.val p.tide.flow.val p.tide.bearing.val
    set { p with noted := some stw }
    return stw

end Plot

end ShipEmissions
