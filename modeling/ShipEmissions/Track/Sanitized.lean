import ShipEmissions.Track.Basic
import ShipEmissions.Track.Report
import ShipEmissions.Window

/-!
# Tracks from reports

Reports are checked against those around them and become the positions of a track.

* A report is left out if the move to it from the mean time and place of up to three reports before
  it is not plausible. Those three count whether they were left out themselves or not.
* A speed that is missing or not plausible is replaced by the mean speed from the report before and
  to the report behind, up to `speedLimit`.
* A course that is missing is replaced by the mean bearing from the report before and to the report
  behind, a missing heading by the course.

What is plausible is asked of a `Plausibility`, whose answers may have effects: `Track.sanitized?`
asks for each report about the move first and then, if the report is kept and has one, about the
speed.
-/

namespace ShipEmissions

/-- What is plausible. -/
structure Plausibility (m : Type → Type) (α : Type) where
  /-- Whether a ship may report this speed over ground. -/
  sog : α → m Bool
  /-- Whether a ship may have moved from the first fix to the second. -/
  move : Fix α → Fix α → m Bool

/-- Everything is plausible. -/
def Plausibility.lenient {m : Type → Type} [Monad m] {α : Type} : Plausibility m α where
  sog _ := pure true
  move _ _ := pure true

namespace Track

variable {m : Type → Type} [Monad m] {α : Type} [Scalar α]

/-- How many reports before a report it is checked against. -/
def pastReports : Nat := 3

/-- How many reports behind a report are used to replace its values. -/
def futureReports : Nat := 1

/-- The greatest speed in knots that replaces a missing one. -/
def speedLimit : Int := 16

/-! ## Replaced values -/

/-- The moves from the report before and to the report behind, as far as there are such reports. -/
def adjacentMoves (w : Window (Report α)) : List (Fix α × Fix α) :=
  (w.past.getLast?.map fun before => (before.fix, w.current.fix)).toList ++
    (w.future.head?.map fun next => (w.current.fix, next.fix)).toList

/-- The speed that replaces a missing one. -/
def replacedSog (w : Window (Report α)) : α :=
  match (adjacentMoves w).map fun (a, b) => a.speedTo b with
  | [] => 0
  | speeds => Scalar.least (Fix.meanOf speeds) (Scalar.ofInt speedLimit)

/-- The course that replaces a missing one. -/
def replacedCog (w : Window (Report α)) : α :=
  match (adjacentMoves w).map fun (a, b) => a.place.bearing b.place with
  | [bearing] => bearing
  | [before, next] => averageBearing before next
  | _ => 0

/-! ## From reports to positions -/

/-- Whether the report in the middle of a window is kept. -/
def isKept (checks : Plausibility m α) (w : Window (Report α)) : m Bool :=
  if w.past.isEmpty then pure true
  else checks.move (Fix.mean (w.past.map fun r => r.fix)) w.current.fix

/-- The speed of the report in the middle of a window, replaced if need be. -/
def sanitizedSog (checks : Plausibility m α) (w : Window (Report α)) : m α :=
  match w.current.sog with
  | none => pure (replacedSog w)
  | some sog => do
    let accepted ← checks.sog sog
    return if accepted then sog else replacedSog w

/-- The position that the report in the middle of a window becomes, with this speed. -/
def sanitizedPosition? (w : Window (Report α)) (sog : α) : Except (Fault α) (Position α) := do
  let r := w.current
  let cog := r.cog.getD (replacedCog w)
  let heading := r.heading.getD cog
  let instant ← Instant.ofSeconds? r.fix.time
  let p ← Position.of? instant r.fix.place.lon r.fix.place.lat sog cog heading
  return p.setTide r.tide

/-- The track with a position for each report in the middle of a window that is kept. -/
def extend? (checks : Plausibility m α) :
    Track α → List (Window (Report α)) → m (Except (Fault α) (Track α))
  | t, [] => pure (.ok t)
  | t, w :: ws => do
    let kept ← isKept checks w
    if kept then
      let sog ← sanitizedSog checks w
      match (sanitizedPosition? w sog).bind t.append? with
      | .ok t => extend? checks t ws
      | .error e => pure (.error e)
    else extend? checks t ws

/-- The track that reports make. -/
def sanitized? (checks : Plausibility m α) (reports : List (Report α)) :
    m (Except (Fault α) (Track α)) :=
  extend? checks .empty (windows pastReports futureReports reports)

end Track

end ShipEmissions
