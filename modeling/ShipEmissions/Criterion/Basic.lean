import ShipEmissions.Interval
import ShipEmissions.Value

/-!
# Criteria

A criterion is a predicate on one attribute of a bag: its value equals a constant, is a number in an
interval, or meets one of several criteria. An attribute that is missing meets none of them; a null
that is there equals the constant null.
-/

namespace ShipEmissions

/-- A predicate on the attribute `name`. -/
inductive Criterion where
  | equals (name : String) (value : Value)
  | within (name : String) (range : Interval Float)
  | anyOf (name : String) (criteria : List Criterion)

namespace Criterion

/-- The attribute that a criterion looks at. -/
def name : Criterion → String
  | .equals name _ => name
  | .within name _ => name
  | .anyOf name _ => name

mutual

/-- Whether a bag meets a criterion. -/
def holds (bag : Bag) : Criterion → Bool
  | .equals name value => bag[name]? == some value
  | .within name range => (bag[name]?.bind Value.number?).any fun x => range.Mem x
  | .anyOf _ criteria => holdsAny bag criteria

/-- Whether a bag meets one of several criteria. -/
def holdsAny (bag : Bag) : List Criterion → Bool
  | [] => false
  | c :: cs => holds bag c || holdsAny bag cs

end

mutual

/-- Whether every constant in a criterion passes a check. Intervals are not checked. -/
def constantsPass (check : Value → Bool) : Criterion → Bool
  | .equals _ value => check value
  | .within _ _ => true
  | .anyOf _ criteria => constantsPassAll check criteria

/-- Whether every constant in several criteria passes a check. -/
def constantsPassAll (check : Value → Bool) : List Criterion → Bool
  | [] => true
  | c :: cs => constantsPass check c && constantsPassAll check cs

end

mutual

/-- The criterion as data. -/
def shown : Criterion → String
  | .equals name value =>
    Text.record "Equals" [("name", Text.quoted name), ("value", value.shown)]
  | .within name range => Text.record "Range" [("name", Text.quoted name), ("range", range.shown)]
  | .anyOf name criteria =>
    Text.record "Disjunction"
      [("name", Text.quoted name), ("criteria", Text.bracketed (shownAll criteria))]

/-- Several criteria as data. -/
def shownAll : List Criterion → List String
  | [] => []
  | c :: cs => shown c :: shownAll cs

end

end Criterion

end ShipEmissions
