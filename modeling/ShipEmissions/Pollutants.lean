import Std.Data.ExtTreeMap
import ShipEmissions.Scalar

/-!
# Amounts of pollutants

An amount for each of some pollutants: a mass, a mass per energy or a plain factor. A pollutant that
a map does not list counts as nothing in a sum and as one in a product.
-/

namespace ShipEmissions

/-- Amounts by the name of the pollutant. -/
abbrev Pollutants (α : Type) := Std.ExtTreeMap String α

namespace Pollutants

variable {α : Type} [Scalar α]

/-- The sum of two maps: all pollutants of both, with their amounts added. -/
def add (a b : Pollutants α) : Pollutants α := a ∪ b.map fun name x => a.getD name 0 + x

/-- The sum of several maps, added up from the first to the last. -/
def total (maps : List (Pollutants α)) : Pollutants α := maps.foldl add ∅

/-- The pollutants of a map, each amount multiplied by its factor if it has one. -/
def adjust (a factors : Pollutants α) : Pollutants α :=
  a.map fun name x =>
    match factors[name]? with
    | some factor => x * factor
    | none => x

/-- Every amount multiplied by a number. -/
def scale (a : Pollutants α) (factor : α) : Pollutants α := a.map fun _ x => x * factor

end Pollutants

end ShipEmissions
