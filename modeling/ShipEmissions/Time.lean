import ShipEmissions.Scalar

/-!
# Instants, durations and dates

An `Instant` is a whole number of nanoseconds since the start of 1970, counted as if every day had
86400 seconds. A `Duration` is a whole number of nanoseconds too, a `Date` a day of the calendar.

* `Instant.text` writes an instant as a date and a time of day of the Gregorian calendar, which is
  continued backwards, with a year 0.
* `Duration.hours` counts whole microseconds as long as they fit 64 bits, and whole seconds beyond.
-/

namespace ShipEmissions

/-- A point in time, in nanoseconds since the start of 1970. -/
structure Instant where
  nanos : Int
  deriving DecidableEq, Repr

/-- A length of time, in nanoseconds. -/
structure Duration where
  nanos : Int
  deriving DecidableEq, Repr

/-! ## Durations -/

namespace Duration

/-- No time. -/
def zero : Duration := ⟨0⟩

/-- A number of milliseconds. -/
def ofMillis (n : Int) : Duration := ⟨n * 1000000⟩

/-- A number of microseconds. -/
def ofMicros (n : Int) : Duration := ⟨n * 1000⟩

/-- Whole microseconds, toward zero. -/
def micros (d : Duration) : Int := d.nanos.tdiv 1000

/-- Whole seconds, toward zero. -/
def seconds (d : Duration) : Int := d.nanos.tdiv 1000000000

/-- Whole milliseconds, toward zero. -/
def millis (d : Duration) : Int := d.nanos.tdiv 1000000

/-- Hours, counted in microseconds where these fit 64 bits and in seconds otherwise. -/
def hours {α : Type} [Scalar α] (d : Duration) : α :=
  if Bits64.Holds d.micros then Scalar.ofInt d.micros / Scalar.ofInt 3600000000
  else Scalar.ofInt d.seconds / Scalar.ofInt 3600

instance : Add Duration := ⟨fun a b => ⟨a.nanos + b.nanos⟩⟩

instance : LE Duration := ⟨fun a b => a.nanos ≤ b.nanos⟩

instance (a b : Duration) : Decidable (a ≤ b) := inferInstanceAs (Decidable (a.nanos ≤ b.nanos))

end Duration

/-! ## Instants -/

namespace Instant

instance : LE Instant := ⟨fun a b => a.nanos ≤ b.nanos⟩

instance : LT Instant := ⟨fun a b => a.nanos < b.nanos⟩

instance (a b : Instant) : Decidable (a ≤ b) := inferInstanceAs (Decidable (a.nanos ≤ b.nanos))

instance (a b : Instant) : Decidable (a < b) := inferInstanceAs (Decidable (a.nanos < b.nanos))

/-- The instant after a number of milliseconds. -/
def ofMillis (n : Int) : Instant := ⟨n * 1000000⟩

/-- The whole milliseconds that have passed. -/
def millis (t : Instant) : Int := t.nanos / 1000000

theorem millis_ofMillis (n : Int) : (ofMillis n).millis = n := Int.mul_ediv_cancel n (by decide)

theorem ofMillis_le_ofMillis_iff {m n : Int} : ofMillis m ≤ ofMillis n ↔ m ≤ n := by
  show m * 1000000 ≤ n * 1000000 ↔ m ≤ n
  omega

/-- The time from `start` to `stop`. -/
def timeTo (start stop : Instant) : Duration := ⟨stop.nanos - start.nanos⟩

/-- The first nanosecond of the year -262143. -/
def earliest : Instant := ⟨-8334601228800000000000⟩

/-- The last nanosecond of the year 262142. -/
def latest : Instant := ⟨8210266876799999999999⟩

end Instant

/-! ## Dates -/

/-- A day of the Gregorian calendar. -/
structure Date where
  year : Int
  month : Int
  day : Int
  deriving DecidableEq, Repr

namespace Date

/-- Whether a year has a leap day. -/
def isLeapYear (year : Int) : Bool := year % 4 = 0 && (year % 100 ≠ 0 || year % 400 = 0)

/-- The number of days in a month, 1 being January. -/
def daysInMonth (year month : Int) : Int :=
  if month = 2 then if isLeapYear year then 29 else 28
  else if month = 4 ∨ month = 6 ∨ month = 9 ∨ month = 11 then 30
  else 31

/-- The date of a day counted from the start of 1970. Years are taken to begin in March, so that a
leap day ends one; 400 of them have 146097 days. -/
def ofDays (days : Int) : Date :=
  let shifted := days + 719468
  let era := shifted / 146097
  let dayOfEra := shifted % 146097
  let yearOfEra := (dayOfEra - dayOfEra / 1460 + dayOfEra / 36524 - dayOfEra / 146096) / 365
  let dayOfYear := dayOfEra - (365 * yearOfEra + yearOfEra / 4 - yearOfEra / 100)
  let monthFromMarch := (5 * dayOfYear + 2) / 153
  let month := if monthFromMarch < 10 then monthFromMarch + 3 else monthFromMarch - 9
  let year := 400 * era + yearOfEra + if month ≤ 2 then 1 else 0
  ⟨year, month, dayOfYear - (153 * monthFromMarch + 2) / 5 + 1⟩

/-- A number of at least `width` digits. -/
def padded (width : Nat) (n : Int) : String :=
  let digits := toString n.natAbs
  String.ofList (List.replicate (width - digits.length) '0') ++ digits

/-- A year of at least four digits; years that do not fit four digits carry their sign. -/
def yearText (year : Int) : String :=
  (if year < 0 then "-" else if 9999 < year then "+" else "") ++ padded 4 year

/-- Year, month and day. -/
def text (d : Date) : String := yearText d.year ++ "-" ++ padded 2 d.month ++ "-" ++ padded 2 d.day

end Date

namespace Instant

/-- A part of a second behind a point: none, three, six or nine digits, as many as it takes. -/
def fractionText (nanos : Int) : String :=
  if nanos = 0 then ""
  else if nanos % 1000000 = 0 then "." ++ Date.padded 3 (nanos / 1000000)
  else if nanos % 1000 = 0 then "." ++ Date.padded 6 (nanos / 1000)
  else "." ++ Date.padded 9 nanos

/-- Date and time of day, with a part of a second if there is one. -/
def text (t : Instant) : String :=
  let ofDay := t.nanos % 86400000000000
  (Date.ofDays (t.nanos / 86400000000000)).text ++ " " ++
    Date.padded 2 (ofDay / 3600000000000) ++ ":" ++
    Date.padded 2 (ofDay / 60000000000 % 60) ++ ":" ++
    Date.padded 2 (ofDay / 1000000000 % 60) ++ fractionText (ofDay % 1000000000) ++ " UTC"

end Instant

end ShipEmissions
