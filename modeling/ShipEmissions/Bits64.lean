/-!
# Integers of 64 bits

Some quantities are held in 64 bits, with or without a sign. `Bits64.Holds` says which integers fit
into 64 bits with a sign, `Bits64.clamp` goes to the nearest of them.
-/

namespace ShipEmissions

namespace Bits64

/-- The least integer of 64 bits with a sign. -/
def least : Int := -9223372036854775808

/-- The greatest integer of 64 bits with a sign. -/
def greatest : Int := 9223372036854775807

/-- How many integers of 64 bits there are. Those without a sign go from zero up to this number. -/
def count : Nat := 18446744073709551616

/-- Whether an integer fits into 64 bits with a sign. -/
def Holds (n : Int) : Prop := least ≤ n ∧ n ≤ greatest

instance (n : Int) : Decidable (Holds n) := inferInstanceAs (Decidable (least ≤ n ∧ n ≤ greatest))

/-- The nearest integer of 64 bits with a sign. -/
def clamp (n : Int) : Int := max least (min greatest n)

end Bits64

end ShipEmissions
