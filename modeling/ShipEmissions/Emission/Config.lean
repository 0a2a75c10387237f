import ShipEmissions.Interval
import ShipEmissions.Error
import ShipEmissions.Pollutants

/-!
# Emission factors of one vessel in one mode

Factors turn energy into masses of pollutants, for every group of engines. Auxiliary engines and
boilers run at a fixed power; at low load the masses of the propulsion engines are adjusted.
-/

namespace ShipEmissions

/-- Factors and powers for one vessel in one mode. -/
structure EmissionConfig (α : Type) where
  /-- Grams per kWh, for every group of engines. -/
  factors : EngineGroup → Pollutants α
  /-- The power of the auxiliary engines in kW. -/
  auxiliaryKw : α
  /-- The power of the boiler in kW. -/
  boilerKw : α
  /-- Factors for propulsion masses by interval of the load. -/
  lowLoad : List (Interval α × Pollutants α)

namespace EmissionConfig

variable {α : Type} [Scalar α]

/-- The emission factors and powers of tables that have every group of engines, and every group but
propulsion, exactly once. -/
def ofTables? (factors : List (EngineGroup × Pollutants α)) (powers : List (EngineGroup × α))
    (lowLoad : List (Interval α × Pollutants α)) : Except Error (EmissionConfig α) :=
  if !(factors.map Prod.fst).isPerm (Vocabulary.all : List EngineGroup) then .error .factorGroups
  else if !(powers.map Prod.fst).isPerm EngineGroup.nonPropulsion then .error .powerGroups
  else .ok {
    factors := fun group => (factors.lookup group).getD ∅
    auxiliaryKw := (powers.lookup .auxiliary).getD 0
    boilerKw := (powers.lookup .boiler).getD 0
    lowLoad := lowLoad }

/-- The power of a group of engines in kW. That of the propulsion engines follows from the speed. -/
def power? (c : EmissionConfig α) : EngineGroup → Except Error α
  | .propulsion => .error (.noPower .propulsion)
  | .auxiliary => .ok c.auxiliaryKw
  | .boiler => .ok c.boilerKw

/-- Grams that a group of engines emits while it produces an energy. -/
def emissions (c : EmissionConfig α) (group : EngineGroup) (kwh : α) : Pollutants α :=
  (c.factors group).scale kwh

/-- The adjustment at a load: that of the first interval that holds it. -/
def adjustmentAt? (c : EmissionConfig α) (load : α) : Option (Pollutants α) :=
  (c.lowLoad.find? fun (range, _) => range.Mem load).map Prod.snd

end EmissionConfig

end ShipEmissions
