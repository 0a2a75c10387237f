import ShipEmissions.Decimal.Binary
import ShipEmissions.Bits64

/-!
# The numbers that quantities are measured in

Distances, speeds, loads and masses are computed in one type of numbers that is a parameter, so that
the same formulas run on floating-point numbers and can be studied over exact ones. `Scalar` lists
what the formulas use: arithmetic, order, equality, roots, trigonometry and rounding.

`Scalar.least`, `Scalar.greatest` and `Scalar.sum` are what the formulas build from these. A value
that differs from itself is no number, and the lesser of it and a number is the number.
-/

namespace ShipEmissions

/-- The operations on numbers that the formulas use. -/
class Scalar (α : Type) extends Add α, Sub α, Mul α, Div α, Neg α, LT α, LE α, BEq α where
  decLt : DecidableLT α
  decLe : DecidableLE α
  /-- The number for an integer, the nearest if there are several places too few. -/
  ofInt : Int → α
  /-- The remainder of a division whose quotient is rounded toward zero. -/
  remainder : α → α → α
  sqrt : α → α
  /-- The sine of an angle in radians. -/
  sin : α → α
  /-- The cosine of an angle in radians. -/
  cos : α → α
  /-- The angle in radians of the point with ordinate `y` and abscissa `x`. -/
  atan2 : (y x : α) → α
  /-- One degree in radians. -/
  degree : α
  /-- One radian in degrees. -/
  radian : α
  /-- Whether the value is a number of finite size. -/
  isFinite : α → Bool
  /-- The nearest integer, a half going away from zero. -/
  round : α → Int
  /-- Zero is not below itself, so it is a speed. -/
  zero_le_zero : ofInt 0 ≤ ofInt 0
  /-- Zero is below a full turn, so it is a bearing. -/
  zero_lt_turn : ofInt 0 < ofInt 360

instance Scalar.instDecidableLt {α : Type} [Scalar α] (x y : α) : Decidable (x < y) :=
  Scalar.decLt x y

instance Scalar.instDecidableLe {α : Type} [Scalar α] (x y : α) : Decidable (x ≤ y) :=
  Scalar.decLe x y

/-- Number literals are integers read as scalars. -/
instance (priority := low) Scalar.instOfNat {α : Type} [Scalar α] {n : Nat} : OfNat α n :=
  ⟨Scalar.ofInt n⟩

namespace Scalar

variable {α : Type} [Scalar α]

/-- The lesser of two values. -/
def least (x y : α) : α := if x < y then x else if y == y then y else x

/-- The greater of two values. -/
def greatest (x y : α) : α := if y < x then x else if y == y then y else x

/-- The size of a value. -/
def size (x : α) : α := if x < 0 then -x else x

/-- The values added up from the first to the last. -/
def sum : List α → α
  | [] => 0
  | x :: xs => xs.foldl (· + ·) x

/-- An angle given in degrees, in radians. -/
def toRadians (x : α) : α := x * degree

/-- An angle given in radians, in degrees. -/
def toDegrees (x : α) : α := x * radian

end Scalar

/-! ## Floating-point numbers -/

/-- The circle constant. -/
def Binary.pi : Float := 3.141592653589793

/-- The integer nearest to a floating-point number. Numbers beyond 64 bits go to the last integer of
64 bits, and what is no number goes to zero. -/
def Binary.roundFloat (x : Float) : Int :=
  match Binary.ofFloat x with
  | .nan => 0
  | .infinite negative => if negative then Bits64.least else Bits64.greatest
  | .finite negative m e => Bits64.clamp (Binary.nearestInteger negative m e)

instance : Scalar Float where
  decLt := inferInstance
  decLe := inferInstance
  ofInt := Float.ofInt
  remainder x y := (Binary.remainder (.ofFloat x) (.ofFloat y)).toFloat
  sqrt := Float.sqrt
  sin := Float.sin
  cos := Float.cos
  atan2 := Float.atan2
  degree := Binary.pi / 180
  radian := 180 / Binary.pi
  isFinite := Float.isFinite
  round := Binary.roundFloat
  zero_le_zero := by decide
  zero_lt_turn := by decide

end ShipEmissions
