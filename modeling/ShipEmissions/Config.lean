import ShipEmissions.Emission.Calculator
import ShipEmissions.Emission.FactorRules
import ShipEmissions.Json.Reader
import ShipEmissions.Toml.Reader
import ShipEmissions.Vessel.Guess

/-!
# Configurations

A configuration holds the sea margin, the rules for emission factors and the rules for guessing what
is not known about a vessel. `Config.ofJson?` reads it from a document, `Config.ofFile?` from the
text of a file in one of two formats.
-/

namespace ShipEmissions

/-- All that is needed to guess vessels and to compute their emissions. -/
structure Config where
  /-- The factor by which the sea raises the load of the propulsion engines. -/
  seaMargin : Float
  factors : FactorRules
  guesser : Guesser

namespace Config

/-- A part of a configuration document. -/
def part? (doc : Json) (name : String) : Except Error Json :=
  match doc.field? name with
  | some part => .ok part
  | none => .error (.partMissing name)

/-- The sea margin that a document gives. -/
def seaMargin? (doc : Json) : Except Error Float :=
  match doc.number? with
  | some x => .ok x
  | none => .error .seaMarginNotNumber

/-- The configuration that a document gives. The parts are read in order, and checked against each
other when all of them have been read. -/
def ofJson? (names : Names) (doc : Json) : Except Error Config := do
  let seaMargin ← part? doc "sea_margin_adjustment_factor" >>= seaMargin?
  let baseValues ← part? doc "base_values" >>= Rule.namedOfJson? names
  let pollutants ← part? doc "pollutants" >>= Rule.namedOfJson? names
  let powers ← part? doc "default_engine_powers" >>= Rule.listOfJson? names
  let guesses ← part? doc "vessel_info_guess_data" >>= Rule.listOfJson? names
  let buildTimes ← part? doc "average_vessel_build_times" >>= Rule.listOfJson? names
  let lowLoad ← part? doc "low_load_adjustment_factors" >>= Rule.listOfJson? names
  let factors ← FactorRules.ofRules? baseValues pollutants powers lowLoad
  let guesser ← Guesser.ofRules? guesses buildTimes
  return ⟨seaMargin, factors, guesser⟩

/-- What computes the emissions of a vessel. -/
def calculator (config : Config) (vessel : Vessel Float) (segmentHours : Segment Float → Float) :
    Calculator Float where
  seaMargin := config.seaMargin
  configFor? := config.factors.configFor?
  vessel := vessel
  segmentHours := segmentHours

/-! ## Files -/

/-- How a configuration is written. -/
inductive Format where
  | json
  | toml
  deriving DecidableEq, Repr

/-- What stands behind the last point in the name of a file. A point that starts the name does not
count. -/
def extension? (path : String) : Option String :=
  let name := path.toList.reverse.takeWhile (· != '/')
  match name.dropWhile (· != '.') with
  | '.' :: _ :: _ => some (String.ofList (name.takeWhile (· != '.')).reverse)
  | _ => none

/-- The format of a file by its name. -/
def Format.ofPath? (path : String) : Option Format :=
  match extension? path with
  | some "json" => some .json
  | some "toml" => some .toml
  | _ => none

/-- The document that a text in some format spells. -/
def Format.document? (text : String) : Format → Except Error Json
  | .json =>
    match Json.read? text with
    | some doc => .ok doc
    | none => .error .jsonMalformed
  | .toml =>
    match Toml.read? text with
    | some doc => .ok (Toml.finite doc)
    | none => .error .tomlMalformed

/-- The configuration that a text in some format gives. -/
def ofText? (names : Names) (format : Format) (text : String) : Except Error Config :=
  format.document? text >>= ofJson? names

/-- The configuration that a file gives, where the text of the file is known. -/
def ofFile? (names : Names) (path : String) (text : Option String) : Except Error Config :=
  match text with
  | none => .error .fileUnreadable
  | some text =>
    match Format.ofPath? path with
    | some format => ofText? names format text
    | none => .error (.formatUnsupported path)

end Config

end ShipEmissions
