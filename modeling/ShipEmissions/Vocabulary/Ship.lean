import ShipEmissions.Vocabulary.Basic

/-!
# Ship types and how their size is measured

Each ship type is measured in certain units only; `ShipType.sizeUnits` lists them.
-/

namespace ShipEmissions

/-- A unit for the size of a ship. -/
inductive SizeUnit where
  | notApplicable
  | dwt
  | teu
  | gt
  | numberVehicles
  deriving DecidableEq, Repr

instance : Vocabulary SizeUnit where
  kind := "ship size unit"
  path := "poeminv_types::ShipSizeUnit"
  all := [.notApplicable, .dwt, .teu, .gt, .numberVehicles]
  word
    | .notApplicable => "n/a"
    | .dwt => "dwt"
    | .teu => "teu"
    | .gt => "gt"
    | .numberVehicles => "number_vehicles"
  shown
    | .notApplicable => "NotApplicable"
    | .dwt => "Dwt"
    | .teu => "Teu"
    | .gt => "Gt"
    | .numberVehicles => "NumberVehicles"

/-- A type of ship that rules tell apart. -/
inductive ShipType where
  | barge
  | crewSupply
  | excursion
  | fishing
  | towboatPushboat
  | dredging
  | sailing
  | recreational
  | pilot
  | tug
  | workboat
  | government
  | bulkCarrier
  | chemicalTanker
  | containerShip
  | cruise
  | ferryPassenger
  | ferryRoroPassenger
  | generalCargo
  | liquifiedGasTanker
  | offshoreSupportDrillship
  | oilTanker
  | otherService
  | otherTanker
  | reefer
  | roro
  | vehicleCarrier
  | misc
  deriving DecidableEq, Repr

instance : Vocabulary ShipType where
  kind := "ship type"
  path := "poeminv_types::ShipType"
  all := [.barge, .crewSupply, .excursion, .fishing, .towboatPushboat, .dredging, .sailing,
    .recreational, .pilot, .tug, .workboat, .government, .bulkCarrier, .chemicalTanker,
    .containerShip, .cruise, .ferryPassenger, .ferryRoroPassenger, .generalCargo,
    .liquifiedGasTanker, .offshoreSupportDrillship, .oilTanker, .otherService, .otherTanker,
    .reefer, .roro, .vehicleCarrier, .misc]
  word
    | .barge => "barge"
    | .crewSupply => "crew_supply"
    | .excursion => "excursion"
    | .fishing => "fishing"
    | .towboatPushboat => "towboat_pushboat"
    | .dredging => "dredging"
    | .sailing => "sailing"
    | .recreational => "recreational"
    | .pilot => "pilot"
    | .tug => "tug"
    | .workboat => "workboat"
    | .government => "government"
    | .bulkCarrier => "bulk_carrier"
    | .chemicalTanker => "chemical_tanker"
    | .containerShip => "container_ship"
    | .cruise => "cruise"
    | .ferryPassenger => "ferry_passenger"
    | .ferryRoroPassenger => "ferry_roro_passenger"
    | .generalCargo => "general_cargo"
    | .liquifiedGasTanker => "liquified_gas_tanker"
    | .offshoreSupportDrillship => "offshort_support_drillship"
    | .oilTanker => "oil_tanker"
    | .otherService => "other_service"
    | .otherTanker => "other_tanker"
    | .reefer => "reefer"
    | .roro => "roro"
    | .vehicleCarrier => "vehicle_carrier"
    | .misc => "misc"
  shown
    | .barge => "Barge"
    | .crewSupply => "CrewSupply"
    | .excursion => "Excursion"
    | .fishing => "Fishing"
    | .towboatPushboat => "TowboatPushboat"
    | .dredging => "Dredging"
    | .sailing => "Sailing"
    | .recreational => "Recreational"
    | .pilot => "Pilot"
    | .tug => "Tug"
    | .workboat => "Workboat"
    | .government => "Government"
    | .bulkCarrier => "BulkCarrier"
    | .chemicalTanker => "ChemicalTanker"
    | .containerShip => "ContainerShip"
    | .cruise => "Cruise"
    | .ferryPassenger => "FerryPassenger"
    | .ferryRoroPassenger => "FerryRoroPassenger"
    | .generalCargo => "GeneralCargo"
    | .liquifiedGasTanker => "LiquifiedGasTanker"
    | .offshoreSupportDrillship => "OffshoreSupportDrillship"
    | .oilTanker => "OilTanker"
    | .otherService => "OtherService"
    | .otherTanker => "OtherTanker"
    | .reefer => "Reefer"
    | .roro => "Roro"
    | .vehicleCarrier => "VehicleCarrier"
    | .misc => "Misc"

/-- The units in which the size of a type may be given. -/
def ShipType.sizeUnits : ShipType → List SizeUnit
  | .bulkCarrier => [.dwt]
  | .chemicalTanker => [.dwt]
  | .generalCargo => [.dwt]
  | .liquifiedGasTanker => [.dwt]
  | .oilTanker => [.dwt]
  | .containerShip => [.teu]
  | .cruise => [.gt]
  | .ferryRoroPassenger => [.gt]
  | .roro => [.gt]
  | .ferryPassenger => [.gt, .notApplicable]
  | .vehicleCarrier => [.numberVehicles]
  | _ => [.notApplicable]

end ShipEmissions
