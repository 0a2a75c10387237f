import ShipEmissions.Bits64
import ShipEmissions.Decimal.Reader
import ShipEmissions.Json.Basic

/-!
# Numbers of documents

A number is read in one pass. Its digits go into a significand as long as that has 64 bits, what
does not fit only counts as a power of ten, and one floating-point operation scales the significand.
The result is the nearest floating-point number wherever significand and power are exact, and may
lie a few units of the last place beside it elsewhere.

* `Number.significand` gives the significand and its power of ten.
* `Number.scaled?` applies the power. Numbers beyond all floating-point numbers are refused.
* `Number.ofDecimal?` gives the number of a decimal; integers of 64 bits stay integers.
-/

namespace ShipEmissions

namespace Json

namespace Number

/-- Whether a decimal is written like a number of a document: no sign `+`, no leading zeros, digits
on both sides of a point, and digits behind an `e`. -/
def wellFormed (d : Decimal) : Bool :=
  let wholeFits := match d.whole with
    | [] => false
    | ['0'] => true
    | first :: _ => first != '0'
  let exponentFits := match d.exponent with
    | none => true
    | some (_, digits) => !digits.isEmpty
  d.sign != some '+' && wholeFits && d.fraction != some [] && exponentFits

/-! ## Significands -/

/-- Adds digits to a significand as long as it keeps to 64 bits. The digits behind the first that
does not fit are left over with it. -/
def absorb (significand : Nat) : List Char → Nat × List Char
  | [] => (significand, [])
  | c :: rest =>
    let more := 10 * significand + (c.toNat - '0'.toNat)
    if more < Bits64.count then absorb more rest else (significand, c :: rest)

/-- The significand of a decimal and its power of ten. A whole digit left over multiplies by ten;
a digit behind the point that has been taken divides by ten, and those left over do not count. The
significand goes on behind the point even where whole digits were left over. -/
def significand (d : Decimal) : Nat × Int :=
  let fraction := d.fraction.getD []
  let (whole, moreWhole) := absorb 0 d.whole
  let (size, moreFraction) := absorb whole fraction
  (size, d.statedExponent + moreWhole.length - (fraction.length - moreFraction.length))

/-! ## Scaling -/

/-- The largest power of ten that is a floating-point number. -/
def maxPower : Nat := 308

/-- A power of ten as a floating-point number. -/
def powerOfTen (k : Nat) : Float := Decimal.nearest 1 k

/-- `x / 10 ^ places`, rounded after each step of at most `maxPower` places. -/
def reduced (x : Float) (places : Nat) : Float :=
  if places ≤ maxPower then x / powerOfTen places
  else if x == 0 then x
  else reduced (x / powerOfTen maxPower) (places - maxPower)
termination_by places
decreasing_by all_goals simp only [maxPower] at *; omega

/-- `x · 10 ^ exponent`, rounded; none if that lies beyond all floating-point numbers. -/
def scaled? (x : Float) (exponent : Int) : Option Float :=
  if exponent < 0 then some (reduced x exponent.natAbs)
  else if x == 0 then some x
  else if exponent ≤ maxPower then
    let size := x * powerOfTen exponent.toNat
    if size.isFinite then some size else none
  else none

/-! ## Values -/

/-- The number that a decimal stands for. A zero with a minus sign is not an integer. -/
def ofDecimal? (d : Decimal) : Option Number :=
  let n := d.toInt
  let isInteger := d.fraction.isNone && d.exponent.isNone
  if isInteger ∧ Bits64.least ≤ n ∧ n < Bits64.count ∧ ¬ (d.isNegative ∧ n = 0) then
    some (.integer n)
  else
    let (size, exponent) := significand d
    (scaled? (Float.ofNat size) exponent).map fun size =>
      .decimal (if d.isNegative then -size else size)

end Number

end Json

end ShipEmissions
