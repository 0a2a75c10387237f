import ShipEmissions.Json.Record
import ShipEmissions.Track.Position

/-!
# Position reports

A report is what a ship sends: a time, a place and, where the ship says so, its speed, its bearings
and the tide. Nothing about it has been checked.

* `Fix.mean` is the mean time and place of several reports.
* `Fix.speedTo` is the speed that leads from one fix to another.
* `Report.ofJson?` reads a report from a document.
-/

namespace ShipEmissions

/-- A place at a time, in seconds since the start of 1970. -/
structure Fix (α : Type) where
  time : α
  place : Place α

namespace Fix

variable {α : Type} [Scalar α]

/-- The arithmetic mean of numbers. -/
def meanOf (xs : List α) : α := Scalar.sum xs / Scalar.ofInt xs.length

/-- The mean time and place. -/
def mean (fixes : List (Fix α)) : Fix α where
  time := meanOf (fixes.map fun fix => fix.time)
  place := {
    lon := meanOf (fixes.map fun fix => fix.place.lon)
    lat := meanOf (fixes.map fun fix => fix.place.lat) }

/-- The speed in knots that leads from one fix to another; none if no time lies between them. -/
def speedTo (a b : Fix α) : α :=
  let hours := (b.time - a.time) / 3600
  if hours == 0 then 0 else nauticalMiles (a.place.distance b.place / hours)

end Fix

/-- What a ship reports. -/
structure Report (α : Type) where
  fix : Fix α
  sog : Option α
  cog : Option α
  heading : Option α
  tideFlow : Option α
  tideBearing : Option α

namespace Report

/-- The tide that a report gives if it gives both values and they make sense, else still water. -/
def tide {α : Type} [Scalar α] (r : Report α) : Tide α :=
  match r.tideFlow, r.tideBearing with
  | some flow, some bearing =>
    match Tide.of? flow bearing with
    | .ok tide => tide
    | .error _ => .still
  | _, _ => .still

/-- The fields of a report in a document, in order. -/
def names : List String :=
  ["ts", "lon", "lat", "sog", "cog", "heading", "tide_flow", "tide_bearing"]

/-- The report that a document gives. Time and place must be there. -/
def ofJson? (doc : Json) : Option (Report Float) :=
  match Json.record? false names doc with
  | some [some time, some lon, some lat, sog, cog, heading, flow, bearing] => do
    let time ← time.number?
    let lon ← lon.number?
    let lat ← lat.number?
    let sog ← Json.optionalNumber? sog
    let cog ← Json.optionalNumber? cog
    let heading ← Json.optionalNumber? heading
    let tideFlow ← Json.optionalNumber? flow
    let tideBearing ← Json.optionalNumber? bearing
    return { fix := ⟨time, ⟨lon, lat⟩⟩, sog, cog, heading, tideFlow, tideBearing }
  | _ => none

/-- The reports that a list of documents gives. -/
def listOfJson? (doc : Json) : Option (List (Report Float)) := doc.items?.bind (List.mapM ofJson?)

end Report

end ShipEmissions
