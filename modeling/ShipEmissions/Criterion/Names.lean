import ShipEmissions.Error

/-!
# Names that criteria may look at

A criterion is only accepted for a registered name. A name may carry a check that the constants of
its criteria have to pass. `Names.builtIn` holds the attributes of vessels, the group of engines and
a few attributes that only serve to match rules; `Names.register?` adds a name once and for all.
`Names.register` and `Names.registerWith` do so to the names at hand.
-/

namespace ShipEmissions

/-- Which constants the criteria of a name may compare with. -/
abbrev Check := Value → Bool

namespace Check

/-- Numbers from zero on. -/
def nonNegative : Check := fun v => v.number?.any fun x => 0 ≤ x

/-- The words of a vocabulary. -/
def term (τ : Type) [Vocabulary τ] : Check := fun v => (v.term? τ).isSome

/-- The levels of nitrogen oxide tiers. -/
def tier : Check := fun v => v.tier?.isSome

end Check

/-- The registered names, each with its check if it has one. -/
structure Names where
  checks : Std.ExtTreeMap String (Option Check)

namespace Names

/-- The names that are always registered. -/
def builtInChecks : List (String × Option Check) := [
  ("max_speed", some .nonNegative),
  ("engine_kw", some .nonNegative),
  ("engine_rpm", some .nonNegative),
  ("engine_category", some (.term EngineCategory)),
  ("engine_nox_tier", some .tier),
  ("ship_type", some (.term ShipType)),
  ("size", some .nonNegative),
  ("size_unit", some (.term SizeUnit)),
  ("engine_group", some (.term EngineGroup)),
  ("length", some .nonNegative),
  ("width", some .nonNegative),
  ("ais_type", none),
  ("keel_laid_year", none),
  ("year_of_build", none)]

/-- The built-in names alone. -/
def builtIn : Names := ⟨.ofList builtInChecks⟩

/-- Whether a name is registered. -/
def isRegistered (names : Names) (name : String) : Bool := names.checks.contains name

/-- Registers a name that is not registered yet. -/
def register? (names : Names) (name : String) (check : Option Check) : Except Error Names :=
  if names.isRegistered name then .error (.nameTaken name)
  else .ok ⟨names.checks.insert name check⟩

/-! ## The names at hand -/

/-- Steps on the names at hand, until one of them fails. -/
abbrev Registering := ExceptT Error (StateM Names)

/-- What steps answer, and the names that they leave. -/
def Registering.on {β : Type} (steps : Registering β) (names : Names) : Except Error β × Names :=
  steps.run.run names

/-- Registers a name among the names at hand. -/
def enter (name : String) (check : Option Check) : Registering Unit := do
  set (← ofExcept ((← get).register? name check))

/-- Registers a name that may be compared with any constant. -/
def register (name : String) : Registering Unit := enter name none

/-- Registers a name that may only be compared with constants that pass a check. -/
def registerWith (name : String) (check : Check) : Registering Unit := enter name (some check)

end Names

end ShipEmissions
