import ShipEmissions.Decimal.Binary

/-!
# Decimal digits of a positive number

Two ways of writing `m · 2 ^ e` with decimal digits, both decided in exact whole-number arithmetic:

* `Digits.shortest` has the fewest digits that still read back as the same floating-point number,
  and of those the nearest;
* `Digits.rounded` has a given number of digits, a half going to the even digit.
-/

namespace ShipEmissions

/-- A power of ten. -/
def tenTo (k : Nat) : Nat := Nat.pow 10 k

/-- The positive number `significand · 10 ^ exponent`. -/
structure Digits where
  significand : Nat
  exponent : Int
  deriving DecidableEq, Repr

/-- Where a half goes when a number lies midway between two decimals. -/
inductive Tie where
  | up
  | even
  deriving DecidableEq, Repr

namespace Digits

/-- The digits of the significand, highest first. -/
def text (d : Digits) : String := toString d.significand

/-- The power of ten of the highest digit. -/
def leading (d : Digits) : Int := d.exponent + d.text.length - 1

/-- The same number without zeros at the end of its significand; at most `fuel` are dropped. -/
def trimmed (fuel : Nat) (d : Digits) : Digits :=
  match fuel with
  | 0 => d
  | fuel + 1 =>
    if d.significand % 10 = 0 then trimmed fuel ⟨d.significand / 10, d.exponent + 1⟩ else d

/-- The quotient `num / den` scaled by `10 ^ (-power)`, again as a numerator and a denominator. -/
def scaled (num den : Nat) (power : Int) : Nat × Nat :=
  if 0 ≤ power then (num, den * tenTo power.toNat) else (num * tenTo (-power).toNat, den)

/-- The power of ten of the highest digit of `num / den`, found by correcting an estimate that the
binary lengths give. -/
def highest (num den : Nat) : Int :=
  let estimate : Int := ((num.log2 : Int) - den.log2) * 30103 / 100000
  let reaches (p : Int) : Bool :=
    let (n, d) := scaled num den p
    decide (d ≤ n)
  if reaches (estimate + 1) then estimate + 1
  else if reaches estimate then estimate
  else if reaches (estimate - 1) then estimate - 1
  else estimate - 2

/-- `num / den` rounded to a whole number. -/
def roundQuotient (tie : Tie) (num den : Nat) : Nat :=
  let quotient := num / den
  let twice := 2 * (num % den)
  if den < twice then quotient + 1
  else if twice < den then quotient
  else match tie with
    | .up => quotient + 1
    | .even => quotient + quotient % 2

/-- `m · 2 ^ e` rounded to `count` digits, a half going to the even one. -/
def rounded (count m : Nat) (e : Int) : Digits :=
  let num := m * twoTo e.toNat
  let den := twoTo (-e).toNat
  let power := highest num den - (count - 1)
  let (n, d) := scaled num den power
  trimmed (count + 1) ⟨roundQuotient .even n d, power⟩

/-- The numbers that read back as one floating-point number, as numerators over one denominator.
Half the gap to each neighbour belongs to the number; the gap below a power of two is half as wide.
The two ends belong to it iff its mantissa is even. -/
structure Interval where
  low : Nat
  value : Nat
  high : Nat
  den : Nat
  closed : Bool

/-- The numbers that read back as `m · 2 ^ e`. -/
def Interval.around (m : Nat) (e : Int) : Interval :=
  let unit := twoTo e.toNat
  let below := if m = twoTo 52 ∧ Binary.leastExponent < e then 1 else 2
  ⟨(4 * m - below) * unit, 4 * m * unit, (4 * m + 2) * unit, 4 * twoTo (-e).toNat, m % 2 = 0⟩

/-- Whether the decimal `significand · 10 ^ power` reads back. -/
def Interval.holds (i : Interval) (power : Int) (significand : Nat) : Bool :=
  let inside (x bound : Nat) : Bool := if i.closed then x ≤ bound else x < bound
  let (_, d) := scaled 1 i.den power
  let scale := tenTo (-power).toNat
  inside (i.low * scale) (significand * d) && inside (significand * d) (i.high * scale)

/-- The decimal nearest to the number on the grid of multiples of `10 ^ power`, if it reads back. -/
def Interval.onGrid (i : Interval) (tie : Tie) (power : Int) : Option Digits :=
  let (n, d) := scaled i.value i.den power
  let nearest := roundQuotient tie n d
  let candidates := [nearest, n / d, n / d + 1]
  (candidates.find? fun s => decide (0 < s) && i.holds power s).map (⟨·, power⟩)

/-- The fewest digits that read back as `m · 2 ^ e`, and of those the nearest. Seventeen digits
always suffice. -/
def shortest (tie : Tie) (m : Nat) (e : Int) : Digits :=
  let i := Interval.around m e
  let top := highest i.value i.den
  let found := (List.range 17).findSome? fun (k : Nat) => i.onGrid tie (top - k)
  trimmed 20 (found.getD (rounded 17 m e))

end Digits

end ShipEmissions
