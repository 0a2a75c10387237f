import ShipEmissions.Error

/-!
# Rules

A rule is a conjunction of criteria with data that applies wherever all of them are met. Of a list
of rules the first that matches counts.
-/

namespace ShipEmissions

/-- Data and the criteria under which it applies. -/
structure Rule (δ : Type) where
  criteria : List Criterion
  data : δ

namespace Rule

variable {δ ε : Type}

/-- Whether a bag meets all criteria. A rule without criteria matches every bag. -/
def matchesBag (r : Rule δ) (bag : Bag) : Bool := r.criteria.all fun c => c.holds bag

/-- Whether a rule has no criteria. -/
def isUnconditional (r : Rule δ) : Bool := r.criteria.isEmpty

/-- Whether a rule has exactly one criterion, on the attribute `name`. -/
def isOnlyOn (r : Rule δ) (name : String) : Bool :=
  match r.criteria with
  | [c] => c.name == name
  | _ => false

/-- The data of the first rule that matches a bag. -/
def firstMatch? (rules : List (Rule δ)) (bag : Bag) : Option δ :=
  (rules.find? fun r => r.matchesBag bag).map data

/-- The rule with its data replaced, if the data can be. -/
def mapData? (f : δ → Except Error ε) (r : Rule δ) : Except Error (Rule ε) :=
  (f r.data).map fun data => ⟨r.criteria, data⟩

end Rule

end ShipEmissions
