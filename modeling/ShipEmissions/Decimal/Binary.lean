/-!
# Numbers as a size times a power of two

A 64-bit floating-point number is read apart into a sign, a whole mantissa and an exponent of two,
so that printing, rounding and remainders can be done in exact whole-number arithmetic.

* `Binary.ofFloat` reads a number apart, `Binary.toFloat` puts one together again.
* `Binary.nearestInteger` rounds halves away from zero.
* `Binary.remainder` is the exact remainder with the sign of the dividend.
-/

namespace ShipEmissions

/-- A power of two. -/
def twoTo (k : Nat) : Nat := Nat.pow 2 k

/-- A floating-point number read apart. The finite ones are `± mantissa · 2 ^ exponent`. -/
inductive Binary where
  | nan
  | infinite (negative : Bool)
  | finite (negative : Bool) (mantissa : Nat) (exponent : Int)
  deriving DecidableEq, Repr

namespace Binary

/-- The smallest exponent a finite number has. -/
def leastExponent : Int := -1074

/-- The sign, mantissa and exponent that the bits of `x` stand for. -/
def ofFloat (x : Float) : Binary :=
  let bits := x.toBits.toNat
  let negative := decide (twoTo 63 ≤ bits)
  let biased : Nat := bits / twoTo 52 % twoTo 11
  let fraction := bits % twoTo 52
  if biased = 2047 then
    if fraction = 0 then .infinite negative else .nan
  else if biased = 0 then .finite negative fraction leastExponent
  else .finite negative (twoTo 52 + fraction) (leastExponent + ((biased : Int) - 1))

/-- The bits of `mantissa · 2 ^ exponent`, for a mantissa below `2 ^ 53` and a size in range. The
mantissa is first moved up as far as the least exponent and its 53 places allow. -/
def sizeBits (mantissa : Nat) (exponent : Int) : Nat :=
  if mantissa = 0 then 0
  else
    let room := min (52 - mantissa.log2) (exponent - leastExponent).toNat
    let mantissa := mantissa * twoTo room
    let exponent := exponent - room
    if mantissa < twoTo 52 then mantissa
    else (exponent - leastExponent + 1).toNat * twoTo 52 + (mantissa - twoTo 52)

/-- The floating-point number that a finite value with at most 53 mantissa places denotes. -/
def toFloat : Binary → Float
  | .nan => 0 / 0
  | .infinite negative => if negative then -1 / 0 else 1 / 0
  | .finite negative mantissa exponent =>
    Float.ofBits (UInt64.ofNat (sizeBits mantissa exponent + if negative then twoTo 63 else 0))

/-- The whole number nearest to a finite value, a half going away from zero. -/
def nearestInteger (negative : Bool) (mantissa : Nat) (exponent : Int) : Int :=
  let size :=
    if 0 ≤ exponent then mantissa * twoTo exponent.toNat
    else (2 * mantissa + twoTo (-exponent).toNat) / twoTo ((-exponent).toNat + 1)
  if negative then -(size : Int) else size

/-- The exact remainder of a division whose quotient is rounded toward zero. It has the sign of
the dividend, and there is none for an infinite dividend or a zero divisor. -/
def remainder : Binary → Binary → Binary
  | .nan, _ => .nan
  | _, .nan => .nan
  | .infinite _, _ => .nan
  | x, .infinite _ => x
  | .finite negative m e, .finite _ n f =>
    if n = 0 then .nan
    else
      let least := min e f
      .finite negative (m * twoTo (e - least).toNat % (n * twoTo (f - least).toNat)) least

end Binary

end ShipEmissions
