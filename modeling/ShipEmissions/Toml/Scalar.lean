import ShipEmissions.Decimal.Reader
import ShipEmissions.Json.Reader
import ShipEmissions.Toml.Moment
import ShipEmissions.Bits64

/-!
# Words of configuration texts

A word without quotes stands for a truth value, a number, a date or a time. Integers have 64 bits
and may be hexadecimal, octal or binary; underscores may group the digits of a number.
-/

namespace ShipEmissions

namespace Toml

/-- Whether every underscore in a text, which follows `before`, stands between two digits. -/
def groupsDigits (isDigit : Char → Bool) : (before : Option Char) → List Char → Bool
  | _, [] => true
  | before, '_' :: rest =>
    before.any isDigit && rest.head?.any isDigit && groupsDigits isDigit (some '_') rest
  | _, c :: rest => groupsDigits isDigit (some c) rest

/-- The value of digits in a base of at most 16. -/
def digitsOf? (base : Nat) (digits : List Char) : Option Nat :=
  if digits.isEmpty then none
  else digits.foldlM (fun n c => do
    let d ← Json.hexDigit? c
    if d < base then return base * n + d else none) 0

/-- An integer of at most 64 bits. -/
def integer? (n : Int) : Option Json :=
  if Bits64.Holds n then some (.number (.integer n)) else none

/-- Whether digits in front of a point or an integer start with no needless zero. -/
def startsWell : List Char → Bool
  | [] => false
  | ['0'] => true
  | first :: _ => first != '0'

/-- The number that a decimal text stands for. A positive number beyond all floating-point numbers
is refused. -/
def decimal? (text : List Char) : Option Json := do
  let d ← Decimal.split text
  if !startsWell d.whole || d.fraction == some [] || d.exponent.any (fun e => e.2.isEmpty) then none
  else if d.fraction.isNone && d.exponent.isNone then integer? d.toInt
  else if d.toFloat == 1 / 0 then none
  else return .number (.decimal d.toFloat)

/-- The integer that digits in a base of at most 16, grouped or not, stand for. -/
def integerIn? (base : Nat) (digits : List Char) : Option Json :=
  if groupsDigits (fun c => (Json.hexDigit? c).isSome) none digits then
    (digitsOf? base (digits.filter (· != '_'))).bind fun n => integer? n
  else none

/-- The number that a text of digits, grouped or not, stands for. -/
def number? : List Char → Option Json
  | '0' :: 'x' :: digits => integerIn? 16 digits
  | '0' :: 'o' :: digits => integerIn? 8 digits
  | '0' :: 'b' :: digits => integerIn? 2 digits
  | text =>
    if groupsDigits Char.isDigit none text then decimal? (text.filter (· != '_')) else none

/-- The value that a word stands for. -/
def ofWord? (word : List Char) : Option Json :=
  match String.ofList word with
  | "true" => some (.boolean true)
  | "false" => some (.boolean false)
  | "inf" => some (.number (.decimal (1 / 0)))
  | "+inf" => some (.number (.decimal (1 / 0)))
  | "-inf" => some (.number (.decimal (-1 / 0)))
  | "nan" => some (.number (.decimal (0 / 0)))
  | "+nan" => some (.number (.decimal (0 / 0)))
  | "-nan" => some (.number (.decimal (0 / 0)))
  | _ => (number? word).or ((Moment.ofText? word).map Moment.toJson)

end Toml

end ShipEmissions
