import ShipEmissions.Decimal.Digits

/-!
# Ways of writing a number

Numbers are written with the fewest digits that read back. What else a format decides is one value
of `NumberStyle`: where exponents begin, whether whole numbers end in `.0`, how an exponent is
signed and which way a tie between two shortest decimals goes.

* `NumberStyle.plain` never uses an exponent: `5`, `0.0000001`.
* `NumberStyle.detailed` keeps the point and uses exponents for large and small sizes: `5.0`,
  `1e-7`.
* `NumberStyle.interchange` is the form of documents: `5.0`, `1e+16`, `1.5e-7`.
-/

namespace ShipEmissions

/-- What a format for numbers decides beyond the digits. -/
structure NumberStyle where
  /-- Sizes whose highest digit has a power of ten in this half-open interval are positional;
  `none` means that all are. -/
  positional : Option (Int × Int)
  /-- Whole numbers in positional form end in `.0`. -/
  pointZero : Bool
  /-- A positive exponent is written with its sign. -/
  signedExponent : Bool
  tie : Tie

namespace NumberStyle

/-- Text for reports: never an exponent, and no point where none is needed. -/
def plain : NumberStyle := ⟨none, false, false, .up⟩

/-- Text that shows a value as data: exponents from `1e16` on and below `1e-4`. -/
def detailed : NumberStyle := ⟨some (-4, 16), true, false, .up⟩

/-- Text of numbers in documents: exponents from `1e+16` on and below `1e-5`. -/
def interchange : NumberStyle := ⟨some (-5, 16), true, true, .even⟩

/-- `count` zeros. -/
def zeros (count : Int) : String := String.ofList (List.replicate count.toNat '0')

/-- The digits with a point at their place. -/
def positionalText (pointZero : Bool) (d : Digits) : String :=
  let digits := d.text.toList
  let whole := d.leading + 1
  if 0 ≤ d.exponent then d.text ++ zeros d.exponent ++ (if pointZero then ".0" else "")
  else if whole ≤ 0 then "0." ++ zeros (-whole) ++ d.text
  else String.ofList (digits.take whole.toNat) ++ "." ++ String.ofList (digits.drop whole.toNat)

/-- One digit, the others behind a point, and the power of ten. -/
def exponentText (signed : Bool) (d : Digits) : String :=
  let mantissa := match d.text.toList with
    | [] => ""
    | [c] => String.ofList [c]
    | c :: rest => String.ofList (c :: '.' :: rest)
  let sign := if d.leading < 0 then "-" else if signed then "+" else ""
  mantissa ++ "e" ++ sign ++ toString d.leading.natAbs

/-- The text of the positive number `d`. -/
def digitsText (style : NumberStyle) (d : Digits) : String :=
  match style.positional with
  | none => positionalText style.pointZero d
  | some (low, high) =>
    if low ≤ d.leading ∧ d.leading < high then positionalText style.pointZero d
    else exponentText style.signedExponent d

/-- The text of any number. -/
def text (style : NumberStyle) (x : Float) : String :=
  match Binary.ofFloat x with
  | .nan => "NaN"
  | .infinite negative => if negative then "-inf" else "inf"
  | .finite negative m e =>
    (if negative then "-" else "") ++
      if m = 0 then (if style.pointZero then "0.0" else "0")
      else style.digitsText (Digits.shortest style.tie m e)

end NumberStyle

end ShipEmissions
