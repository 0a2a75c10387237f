import ShipEmissions.Decimal.Digits

/-!
# Reading decimal numbers

A decimal text is a sign, whole digits, digits behind a point and a power of ten. `Decimal.split`
takes a text apart without judging it; the formats that use it say which parts may be missing. The
value is the floating-point number nearest to the decimal.
-/

namespace ShipEmissions

/-- A decimal text taken apart. `none` stands for a part without its mark: no point, no `e`. -/
structure Decimal where
  sign : Option Char
  whole : List Char
  fraction : Option (List Char)
  exponent : Option (Option Char × List Char)
  deriving DecidableEq, Repr

namespace Decimal

/-- An optional sign in front of a text. -/
def takeSign : List Char → Option Char × List Char
  | '+' :: rest => (some '+', rest)
  | '-' :: rest => (some '-', rest)
  | text => (none, text)

/-- The digits behind a point, if there is a point. -/
def takeFraction : List Char → Option (List Char) × List Char
  | '.' :: rest => (some (rest.takeWhile Char.isDigit), rest.dropWhile Char.isDigit)
  | text => (none, text)

/-- The power of ten behind a letter `e`, if there is one. -/
def takeExponent : List Char → Option (Option Char × List Char) × List Char
  | [] => (none, [])
  | c :: rest =>
    if c = 'e' ∨ c = 'E' then
      let (sign, rest) := takeSign rest
      (some (sign, rest.takeWhile Char.isDigit), rest.dropWhile Char.isDigit)
    else (none, c :: rest)

/-- Takes a whole text apart; `none` if something is left over. -/
def split (text : List Char) : Option Decimal :=
  let (sign, rest) := takeSign text
  let whole := rest.takeWhile Char.isDigit
  let (fraction, rest) := takeFraction (rest.dropWhile Char.isDigit)
  let (exponent, rest) := takeExponent rest
  if rest.isEmpty then some ⟨sign, whole, fraction, exponent⟩ else none

/-- The value of a run of digits. -/
def digitsValue (digits : List Char) : Nat :=
  digits.foldl (fun n c => 10 * n + (c.toNat - '0'.toNat)) 0

/-- Whether the text starts with a minus sign. -/
def isNegative (d : Decimal) : Bool := d.sign = some '-'

/-- The power of ten that the text states. -/
def statedExponent (d : Decimal) : Int :=
  match d.exponent with
  | none => 0
  | some (sign, digits) =>
    if sign = some '-' then -(digitsValue digits : Int) else digitsValue digits

/-- The value of an integer text. -/
def toInt (d : Decimal) : Int :=
  if d.isNegative then -(digitsValue d.whole : Int) else digitsValue d.whole

/-- `significand · 10 ^ exponent` as the nearest floating-point number. Sizes beyond all
floating-point numbers are decided before the power is formed. -/
def nearest (significand : Nat) (exponent : Int) : Float :=
  if significand = 0 then 0
  else
    let top := exponent + (toString significand).length
    if 400 < top then 1 / 0
    else if top < -400 then 0
    else if exponent < 0 then Float.ofScientific significand true exponent.natAbs
    else Float.ofScientific significand false exponent.toNat

/-- The floating-point number nearest to the decimal. -/
def toFloat (d : Decimal) : Float :=
  let fraction := d.fraction.getD []
  let size := nearest (digitsValue (d.whole ++ fraction)) (d.statedExponent - fraction.length)
  if d.isNegative then -size else size

end Decimal

end ShipEmissions
