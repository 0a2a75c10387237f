import ShipEmissions.Emission.Config
import ShipEmissions.Json.Record
import ShipEmissions.Rule.Reader
import ShipEmissions.Vessel.Attributes

/-!
# Rules for emission factors

A pollutant is defined by a base value, a multiplier and an offset; base values, definitions, powers
and adjustments are all found by rules. `FactorRules.ofRules?` checks four collections of rules,
`FactorRules.configFor?` resolves them for one vessel in one mode, the first matching rule of each
list counting.
-/

namespace ShipEmissions

/-- A pollutant in terms of a base value. -/
structure PollutantDefinition where
  baseValue : String
  multiplier : Float
  offset : Float

/-- Powers in kW by mode. -/
structure ModePowers where
  transit : Float
  maneuvering : Float
  hotelling : Float
  anchorage : Float

/-- The power in a mode. -/
def ModePowers.at (p : ModePowers) : Mode → Float
  | .transit => p.transit
  | .maneuvering => p.maneuvering
  | .hotelling => p.hotelling
  | .anchorage => p.anchorage

/-- Adjustments by interval of the load. -/
abbrev LowLoad := List (Interval Float × Pollutants Float)

/-! ## Data of rules -/

/-- A base value in grams per kWh. -/
def baseValueOfData? (data : Json.Fields) : Option Float :=
  (data.lookup "g_per_kwh").bind Json.number?

/-- A definition of a pollutant. The multiplier may be missing and is one then, the offset may be
missing and is zero then. -/
def PollutantDefinition.ofData? (data : Json.Fields) : Option PollutantDefinition := do
  let baseValue ← (data.lookup "base_value_name").bind Json.text?
  let multiplier ← Json.numberOr? 1 (data.lookup "multiplier")
  let offset ← Json.numberOr? 0 (data.lookup "offset_g_per_kwh")
  return ⟨baseValue, multiplier, offset⟩

/-- Powers for all modes. -/
def ModePowers.ofData? (data : Json.Fields) : Option ModePowers := do
  let transit ← (data.lookup "transit").bind Json.number?
  let maneuvering ← (data.lookup "maneuvering").bind Json.number?
  let hotelling ← (data.lookup "hotelling").bind Json.number?
  let anchorage ← (data.lookup "anchorage").bind Json.number?
  return ⟨transit, maneuvering, hotelling, anchorage⟩

/-- The interval that a record of its bounds gives. -/
def Interval.ofJson? (doc : Json) : Option (Interval Float) :=
  match Json.record? false ["ge", "lt"] doc with
  | some [some lower, some upper] => do Interval.of? (← lower.number?) (← upper.number?)
  | _ => none

/-- The amounts that the fields of an object give. -/
def Pollutants.ofJson? (doc : Json) : Option (Pollutants Float) := do
  let fields ← doc.fields?
  let amounts ← fields.mapM fun (name, amount) => amount.number?.map fun x => (name, x)
  return Std.ExtTreeMap.ofList amounts

/-- One adjustment: the interval and the factors. -/
def adjustmentOfJson? (doc : Json) : Option (Interval Float × Pollutants Float) :=
  match Json.record? false ["range", "factors"] doc with
  | some [some range, some factors] => do
    return (← Interval.ofJson? range, ← Pollutants.ofJson? factors)
  | _ => none

/-- Adjustments in their order. -/
def LowLoad.ofData? (data : Json.Fields) : Option LowLoad := do
  let docs ← (data.lookup "range_factors").bind Json.items?
  docs.mapM adjustmentOfJson?

/-! ## Collections of rules -/

/-- Rules for base values, pollutants, powers and adjustments. -/
structure FactorRules where
  baseValues : Std.ExtTreeMap String (List (Rule Float))
  pollutants : Std.ExtTreeMap String (List (Rule PollutantDefinition))
  powers : List (Rule ModePowers)
  lowLoad : List (Rule LowLoad)

namespace FactorRules

/-- Named lists of rules as found in a document. -/
abbrev NamedRules := List (String × List (Rule Json.Fields))

/-- Named lists of rules with the data of each rule read. -/
def typedNamed? {δ : Type} (read : Json.Fields → Option δ) (named : NamedRules) :
    Except Error (List (String × List (Rule δ))) :=
  named.mapM fun (name, rules) =>
    (rules.mapM (Rule.typed? read)).map fun rules => (name, rules)

/-- Whether a rule gives the power of a group for every vessel: it has no criteria, or only one on
the group of engines that the group meets. -/
def isDefaultFor {δ : Type} (group : EngineGroup) (r : Rule δ) : Bool :=
  r.isUnconditional ||
    (r.isOnlyOn "engine_group" && r.matchesBag (.ofList [("engine_group", .ofTerm group)]))

/-- The first definition that refers to a base value without rules. -/
def unknownBaseValue? (baseValues : List (String × List (Rule Float)))
    (pollutants : List (String × List (Rule PollutantDefinition))) : Option String :=
  ((pollutants.flatMap Prod.snd).map fun r => r.data.baseValue).find? fun name =>
    (baseValues.lookup name).isNone

/-- Reads and checks four collections of rules. Named collections are expected in the order of
their names. -/
def ofRules? (baseValues pollutants : NamedRules) (powers lowLoad : List (Rule Json.Fields)) :
    Except Error FactorRules := do
  let baseValues ← typedNamed? baseValueOfData? baseValues
  let pollutants ← typedNamed? PollutantDefinition.ofData? pollutants
  match unknownBaseValue? baseValues pollutants with
  | some name => .error (.baseValueUnknown name)
  | none =>
    let powers ← powers.mapM (Rule.typed? ModePowers.ofData?)
    let missing := EngineGroup.nonPropulsion.filter fun group => !powers.any (isDefaultFor group)
    if !missing.isEmpty then .error (.powerDefaultsMissing missing)
    else
      let lowLoad ← lowLoad.mapM (Rule.typed? LowLoad.ofData?)
      if lowLoad.any fun r => r.data.isEmpty then .error .lowLoadEmpty
      else return ⟨.ofList baseValues, .ofList pollutants, powers, lowLoad⟩

/-! ## Resolving rules -/

/-- A bag with the group of engines put in. -/
def withGroup (bag : Bag) (group : EngineGroup) : Bag := bag.insert "engine_group" (.ofTerm group)

/-- The factor that the rules for one pollutant give, if they give one. Only the first matching
definition counts, even if no rule for its base value matches. -/
def factor? (rules : FactorRules) (bag : Bag) (definitions : List (Rule PollutantDefinition)) :
    Option Float := do
  let definition ← Rule.firstMatch? definitions bag
  let base ← (rules.baseValues[definition.baseValue]?).bind fun bases =>
    Rule.firstMatch? bases bag
  return definition.offset + base * definition.multiplier

/-- The factors of a group of engines. -/
def factorsFor (rules : FactorRules) (vessel : Bag) (group : EngineGroup) : Pollutants Float :=
  let bag := withGroup vessel group
  rules.pollutants.filterMap fun _ definitions => rules.factor? bag definitions

/-- The power of a group of engines in a mode. Checked rules have one that matches; without one the
last rule would count. -/
def powerFor? (rules : FactorRules) (vessel : Bag) (group : EngineGroup) (mode : Mode) :
    Except Error Float :=
  match Rule.firstMatch? rules.powers (withGroup vessel group) with
  | some powers => .ok (powers.at mode)
  | none =>
    match rules.powers.getLast? with
    | some r => .ok (r.data.at mode)
    | none => .error .powersMissing

/-- The adjustments at low load. -/
def lowLoadFor (rules : FactorRules) (vessel : Bag) : LowLoad :=
  (Rule.firstMatch? rules.lowLoad vessel).getD []

/-- The emission factors and powers of a vessel in a mode. -/
def configFor? (rules : FactorRules) (vessel : Vessel Float) (mode : Mode) :
    Except Error (EmissionConfig Float) := do
  let bag := vessel.toBag
  let factors := (Vocabulary.all : List EngineGroup).map fun group =>
    (group, rules.factorsFor bag group)
  let powers ← EngineGroup.nonPropulsion.mapM fun group =>
    (rules.powerFor? bag group mode).map fun kw => (group, kw)
  EmissionConfig.ofTables? factors powers (rules.lowLoadFor bag)

end FactorRules

end ShipEmissions
