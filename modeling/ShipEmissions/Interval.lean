import ShipEmissions.Decimal.Style
import ShipEmissions.Scalar
import ShipEmissions.Text.Quoted

/-!
# Half-open intervals

An interval holds the numbers from its lower bound up to, but not including, its upper bound. Bounds
may be infinite. An interval whose bounds are out of order is empty.
-/

namespace ShipEmissions

/-- The numbers `x` with `lower ≤ x < upper`. -/
structure Interval (α : Type) where
  lower : α
  upper : α
  deriving BEq

namespace Interval

variable {α : Type} [Scalar α]

/-- The interval between two bounds, if both are numbers. -/
def of? (lower upper : α) : Option (Interval α) :=
  if lower == lower && upper == upper then some ⟨lower, upper⟩ else none

/-- Whether an interval holds a number. -/
def Mem (i : Interval α) (x : α) : Prop := i.lower ≤ x ∧ x < i.upper

instance (i : Interval α) (x : α) : Decidable (i.Mem x) :=
  inferInstanceAs (Decidable (i.lower ≤ x ∧ x < i.upper))

/-- The bounds in brackets that show which of them belongs to the interval. -/
def text (i : Interval Float) : String :=
  "[" ++ NumberStyle.plain.text i.lower ++ ", " ++ NumberStyle.plain.text i.upper ++ ")"

/-- The interval as data. -/
def shown (i : Interval Float) : String :=
  Text.record "Range" [("ge", NumberStyle.detailed.text i.lower),
    ("lt", NumberStyle.detailed.text i.upper)]

end Interval

end ShipEmissions
