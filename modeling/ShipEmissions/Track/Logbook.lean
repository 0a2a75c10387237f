import ShipEmissions.Track.Basic
import ShipEmissions.Track.Plot

/-!
# Logbooks

A logbook is a track that is worked with: a list of plots and a list of the known lengths of the
ways between them, which are changed in place. What a change has done to one of the lists stays,
even if the change fails before it comes to the other.

* `Logbook.append`, `Logbook.setDistance`, `Logbook.editPlot` change the lists in place.
* `Logbook.between?` cuts another logbook out of both lists.
* `Track.logbook` is the logbook of a track.
-/

namespace ShipEmissions

variable {α : Type} [Scalar α]

/-- Plots, and the lengths of the ways from each of them to the next. -/
structure Logbook (α : Type) [Scalar α] where
  plots : List (Plot α)
  /-- The lengths where they are known. -/
  distances : List (Option (Distance α))

/-- The plots and the known lengths of a track. -/
def Track.logbook (t : Track α) : Logbook α := ⟨t.positions.map Position.plot, t.knownDistances⟩

namespace Logbook

/-- A logbook without an entry. -/
def empty : Logbook α := ⟨[], []⟩

/-! ## Changes in place -/

/-- Adds a plot, which must not be earlier than the last. If there is a last one, the way from it
gets its place before the plot does. -/
def append (p : Plot α) : Edit (Logbook α) α Unit := do
  if let some last := (← get).plots.getLast? then
    if p.instant < last.instant then throw (.positionOlder p.instant last.instant)
    modify fun book => { book with distances := book.distances ++ [none] }
  modify fun book => { book with plots := book.plots ++ [p] }

/-- Makes a length known. The length is checked before the index. -/
def setDistance (i : Nat) (x : α) : Edit (Logbook α) α Unit := do
  let distance ← ofExcept (Distance.of? x)
  let book ← get
  if i < book.distances.length then
    modify fun book => { book with distances := book.distances.set i (some distance) }
  else throw (.noSegment i book.plots.length)

/-- Changes a plot, if there is one at the index. The plot is left as the change leaves it, also if
that fails. -/
def editPlot (i : Nat) (edit : Edit (Plot α) α Unit) : Edit (Logbook α) α Unit := do
  match (← get).plots[i]? with
  | none => pure ()
  | some p =>
    let (answer, p) := edit.on p
    modify fun book => { book with plots := book.plots.set i p }
    ofExcept answer

/-- Puts another logbook in the place of this one, if there is another. -/
def become (other? : Except (Fault α) (Logbook α)) : Edit (Logbook α) α Unit := do
  set (← ofExcept other?)

/-! ## Parts of a logbook -/

/-- The entries in the period from `start` to `stop`, both included. -/
def between? (book : Logbook α) (start stop : Instant) : Except (Fault α) (Logbook α) :=
  if stop < start then .error .periodReversed
  else
    match book.plots.findIdx? fun p => start ≤ p.instant with
    | none => .ok empty
    | some first =>
      let plots := (book.plots.drop first).takeWhile fun p => p.instant ≤ stop
      .ok ⟨plots, (book.distances.drop first).take (plots.length - 1)⟩

end Logbook

end ShipEmissions
