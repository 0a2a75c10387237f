import ShipEmissions.Criterion.Names

/-!
# Building criteria

Criteria are built through functions that look up the name and check the constants. A criterion of
alternatives takes only criteria on its own name.
-/

namespace ShipEmissions

namespace Criterion

/-- The criterion, if its name is registered and its constants pass the name's check. -/
def accept? (names : Names) (c : Criterion) : Except Error Criterion :=
  match names.checks[c.name]? with
  | none => .error (.nameUnknown c.name)
  | some none => .ok c
  | some (some check) => if c.constantsPass check then .ok c else .error (.constantRefused c)

/-- The criterion that an attribute equals a constant. -/
def equals? (names : Names) (name : String) (value : Value) : Except Error Criterion :=
  accept? names (.equals name value)

/-- The criterion that an attribute is a number in an interval. -/
def within? (names : Names) (name : String) (lower upper : Float) : Except Error Criterion :=
  match Interval.of? lower upper with
  | none => .error (.boundsNotNumbers lower upper)
  | some range => accept? names (.within name range)

/-- The criterion that one of several criteria on one name is met. -/
def anyOf? (names : Names) (name : String) (criteria : List Criterion) : Except Error Criterion :=
  if criteria.all fun c => c.name == name then accept? names (.anyOf name criteria)
  else .error (.foreignName name)

end Criterion

end ShipEmissions
