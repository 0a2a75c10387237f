import ShipEmissions.Vocabulary.Basic

/-!
# Engines and how they are run

The modes a vessel is operated in, its groups of engines, the categories of main engines and the
tiers of their nitrogen oxide limits.
-/

namespace ShipEmissions

/-! ## Modes -/

/-- How a vessel is operated while it emits. -/
inductive Mode where
  | transit
  | maneuvering
  | hotelling
  | anchorage
  deriving DecidableEq, Repr

instance : Vocabulary Mode where
  kind := "mode"
  path := "poeminv_types::Mode"
  all := [.transit, .maneuvering, .hotelling, .anchorage]
  word
    | .transit => "transit"
    | .maneuvering => "maneuvering"
    | .hotelling => "hotelling"
    | .anchorage => "anchorage"
  shown
    | .transit => "Transit"
    | .maneuvering => "Maneuvering"
    | .hotelling => "Hotelling"
    | .anchorage => "Anchorage"

/-- Whether the vessel is under way, with its propulsion engines running. -/
def Mode.isMoving : Mode → Bool
  | .transit => true
  | .maneuvering => true
  | .hotelling => false
  | .anchorage => false

/-! ## Groups of engines -/

/-- The engines an emission factor or a power belongs to. -/
inductive EngineGroup where
  | propulsion
  | auxiliary
  | boiler
  deriving DecidableEq, Repr

instance : Vocabulary EngineGroup where
  kind := "engine group"
  path := "poeminv_types::EngineGroup"
  all := [.propulsion, .auxiliary, .boiler]
  word
    | .propulsion => "propulsion"
    | .auxiliary => "auxiliary"
    | .boiler => "boiler"
  shown
    | .propulsion => "Propulsion"
    | .auxiliary => "Auxiliary"
    | .boiler => "Boiler"

/-- The groups whose power does not follow from the vessel's speed. -/
def EngineGroup.nonPropulsion : List EngineGroup := [.auxiliary, .boiler]

/-! ## Categories of main engines -/

/-- The category of a main engine, by displacement per cylinder. -/
inductive EngineCategory where
  | c1
  | c2
  | c3
  deriving DecidableEq, Repr

instance : Vocabulary EngineCategory where
  kind := "engine category"
  path := "poeminv_types::EngineCategory"
  all := [.c1, .c2, .c3]
  word
    | .c1 => "c1"
    | .c2 => "c2"
    | .c3 => "c3"
  shown
    | .c1 => "C1"
    | .c2 => "C2"
    | .c3 => "C3"

/-! ## Nitrogen oxide tiers -/

/-- The tier of nitrogen oxide limits an engine was built to. Documents write it as its level. -/
inductive NoxTier where
  | unclassified
  | tier1
  | tier2
  | tier3
  deriving DecidableEq, Repr

namespace NoxTier

/-- The tiers, from the lowest level. -/
def all : List NoxTier := [.unclassified, .tier1, .tier2, .tier3]

/-- The number that documents write for a tier. -/
def level : NoxTier → Nat
  | .unclassified => 0
  | .tier1 => 1
  | .tier2 => 2
  | .tier3 => 3

/-- What messages call a tier. -/
def kind : String := "engine NOx tier"

/-- How messages show a tier as data. -/
def shown : NoxTier → String
  | .unclassified => "Unclassified"
  | .tier1 => "Tier1"
  | .tier2 => "Tier2"
  | .tier3 => "Tier3"

/-- The tier of a level. -/
def ofLevel? (n : Nat) : Option NoxTier := all.find? fun t => t.level == n

end NoxTier

end ShipEmissions
