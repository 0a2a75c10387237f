import ShipEmissions.Decimal.Reader
import ShipEmissions.Json.Basic
import ShipEmissions.Time

/-!
# Dates and times of configuration texts

A value may be a date, a time of day, or a date and a time of day, then possibly with the offset of
a time zone. Documents have no such values: `Moment.toJson` gives an object with one field that
holds the text of the moment.

`Moment.ofText?` reads a moment. `takeDate?`, `Clock.take?` and `Offset.take?` read a part of one
from the front of a text and give what follows it.
-/

namespace ShipEmissions

namespace Toml

/-- A time of day. A minute may end with a leap second. -/
structure Clock where
  hour : Nat
  minute : Nat
  second : Nat
  nanos : Nat
  deriving DecidableEq, Repr

/-- How far the clocks of a time zone are ahead, in minutes; `zero` is written without a number. -/
inductive Offset where
  | zero
  | ahead (minutes : Int)
  deriving DecidableEq, Repr

/-- A date, a time of day, or both. -/
inductive Moment where
  | day (date : Date)
  | time (clock : Clock)
  | both (date : Date) (clock : Clock) (offset : Option Offset)
  deriving DecidableEq, Repr

/-! ## Reading -/

/-- Takes a number of exactly `count` digits that lies between two bounds. -/
def takeNumber? (count least greatest : Nat) (text : List Char) : Option (Nat × List Char) :=
  let digits := text.take count
  let n := Decimal.digitsValue digits
  if digits.length = count ∧ digits.all Char.isDigit ∧ least ≤ n ∧ n ≤ greatest then
    some (n, text.drop count)
  else none

/-- Takes one character. -/
def takeChar? (c : Char) : List Char → Option (List Char)
  | first :: rest => if first = c then some rest else none
  | [] => none

/-- Takes a date of the calendar from the front of a text. -/
def takeDate? (text : List Char) : Option (Date × List Char) := do
  let (year, text) ← takeNumber? 4 0 9999 text
  let text ← takeChar? '-' text
  let (month, text) ← takeNumber? 2 1 12 text
  let text ← takeChar? '-' text
  let (day, text) ← takeNumber? 2 1 31 text
  if day ≤ Date.daysInMonth year month then return (⟨year, month, day⟩, text) else none

/-- Takes a point and the digits behind it, as nanoseconds, if there are any. Digits beyond nine do
not count. -/
def takeNanos (text : List Char) : Nat × List Char :=
  match Decimal.takeFraction text with
  | (some (digit :: digits), rest) =>
    (Decimal.digitsValue (((digit :: digits) ++ List.replicate 8 '0').take 9), rest)
  | _ => (0, text)

/-- Takes a time of day from the front of a text. -/
def Clock.take? (text : List Char) : Option (Clock × List Char) := do
  let (hour, text) ← takeNumber? 2 0 23 text
  let text ← takeChar? ':' text
  let (minute, text) ← takeNumber? 2 0 59 text
  let text ← takeChar? ':' text
  let (second, text) ← takeNumber? 2 0 60 text
  let (nanos, text) := takeNanos text
  return (⟨hour, minute, second, nanos⟩, text)

/-- Takes the hours and minutes of an offset. -/
def takeAhead? (text : List Char) : Option (Int × List Char) := do
  let (hours, text) ← takeNumber? 2 0 23 text
  let text ← takeChar? ':' text
  let (minutes, text) ← takeNumber? 2 0 59 text
  return (60 * hours + minutes, text)

/-- Takes an offset from the front of a text. -/
def Offset.take? : List Char → Option (Offset × List Char)
  | 'Z' :: text => some (.zero, text)
  | 'z' :: text => some (.zero, text)
  | '+' :: text => (takeAhead? text).map fun (minutes, text) => (.ahead minutes, text)
  | '-' :: text => (takeAhead? text).map fun (minutes, text) => (.ahead (-minutes), text)
  | _ => none

/-- The moment of a date and of what follows it. -/
def Moment.ofDate? (date : Date) : List Char → Option Moment
  | [] => some (.day date)
  | mark :: text => do
    if mark ≠ 'T' ∧ mark ≠ 't' ∧ mark ≠ ' ' then none
    let (clock, text) ← Clock.take? text
    if text.isEmpty then return .both date clock none
    let (offset, text) ← Offset.take? text
    if text.isEmpty then return .both date clock (some offset) else none

/-- The moment that a text stands for. -/
def Moment.ofText? (text : List Char) : Option Moment :=
  match takeDate? text with
  | some (date, rest) => Moment.ofDate? date rest
  | none =>
    match Clock.take? text with
    | some (clock, []) => some (.time clock)
    | _ => none

/-- Whether a text is a date and nothing else. -/
def isDate (text : List Char) : Bool := (takeDate? text).any fun (_, rest) => rest.isEmpty

/-! ## Writing -/

/-- A fraction of a second without zeros at its end; nothing if there is none. -/
def fractionText (nanos : Nat) : String :=
  if nanos = 0 then ""
  else
    let digits := (Date.padded 9 nanos).toList.reverse.dropWhile (· == '0')
    "." ++ String.ofList digits.reverse

/-- Hours, minutes and seconds. -/
def Clock.text (c : Clock) : String :=
  Date.padded 2 c.hour ++ ":" ++ Date.padded 2 c.minute ++ ":" ++ Date.padded 2 c.second ++
    fractionText c.nanos

/-- An offset behind a time of day. -/
def Offset.text : Offset → String
  | .zero => "Z"
  | .ahead minutes =>
    (if minutes < 0 then "-" else "+") ++ Date.padded 2 (minutes.natAbs / 60) ++ ":" ++
      Date.padded 2 (minutes.natAbs % 60)

/-- A moment, with the letter `T` between date and time of day. -/
def Moment.text : Moment → String
  | .day date => date.text
  | .time clock => clock.text
  | .both date clock offset => date.text ++ "T" ++ clock.text ++ (offset.map Offset.text).getD ""

/-- The name of the field that the text of a moment has in a document. -/
def momentField : String := "$__toml_private_datetime"

/-- A moment as a document. -/
def Moment.toJson (m : Moment) : Json := .object [(momentField, .text m.text)]

end Toml

end ShipEmissions
