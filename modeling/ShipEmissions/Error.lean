import ShipEmissions.Criterion.Basic
import ShipEmissions.Fault
import ShipEmissions.Json.Printer
import ShipEmissions.Vessel.Basic

/-!
# Errors of documents and calculations

Why a document is refused or a calculation cannot be done. Each error is a cause with the values at
fault; `Error.kind` sorts the causes, `Error.message` puts one into words.
-/

namespace ShipEmissions

/-- Why a word or a document value is not a term of a vocabulary. -/
inductive WordError where
  /-- No term of this kind has the word. -/
  | unknown (kind word : String)
  /-- A list or an object stands where a single value is wanted. -/
  | notScalar (doc : Json)

/-- The cause in words. -/
def WordError.text : WordError → String
  | .unknown kind word => "unknown " ++ kind ++ " '" ++ word ++ "'"
  | .notScalar doc => "expected a scalar value, got " ++ doc.compact

/-- What sort of thing is wrong. -/
inductive ErrorKind where
  /-- The rules are malformed or incomplete. -/
  | configuration
  /-- A value of the domain makes no sense. -/
  | value
  /-- What was asked for cannot be answered. -/
  | input
  /-- The mode does not fit the calculation. -/
  | mode
  /-- The group of engines does not fit what was asked. -/
  | engineGroup
  /-- A file cannot be read. -/
  | file
  /-- A text is no document. -/
  | json
  /-- A text is no configuration file. -/
  | toml
  deriving DecidableEq, Repr

/-- How messages name the sort of error. -/
def ErrorKind.label : ErrorKind → String
  | .configuration => "Invalid configuration"
  | .value => "Invalid value"
  | .input => "Invalid input"
  | .mode => "Invalid mode"
  | .engineGroup => "Invalid engine group"
  | .file => "Failed to read file"
  | .json => "Failed to parse JSON"
  | .toml => "Failed to parse TOML"

/-- Why a document is refused or a calculation cannot be done. -/
inductive Error where
  -- Names and criteria
  | nameTaken (name : String)
  | nameUnknown (name : String)
  | foreignName (name : String)
  | constantRefused (criterion : Criterion)
  | boundsNotNumbers (lower upper : Float)
  -- Rules
  | ruleNotObject (doc : Json)
  | criteriaMissing (doc : Json)
  | rulesNotList (doc : Json)
  | namedRulesNotObject (doc : Json)
  | dataRefused (data : Json)
  | constantNotScalar (name : String) (cause : WordError)
  | boundsRefused (name : String) (doc : Json)
  | specRefused (name : String) (doc : Json)
  -- Vessels
  | word (cause : WordError)
  | attributeUnknown (name : String)
  | attributeMissing (name : String)
  | attributeNotNumber (name : String) (value : Value)
  | tierRefused (value : Value)
  | particularsRefused (particulars : Particulars Float)
  -- Guessing
  | guessNotScalar (name : String) (cause : WordError)
  | guessRefused (data : Bag) (cause : Error)
  | sizeIncomplete (data : Bag)
  | defaultsMissing (names : List String)
  | sizesMissing (types : List ShipType)
  | buildTimeDefaultMissing
  | buildTimeMissing
  | sizeWithoutType (attributes : Bag)
  | buildYearNotNumber (value : Value)
  -- Emission factors and powers
  | factorGroups
  | powerGroups
  | baseValueUnknown (name : String)
  | powerDefaultsMissing (groups : List EngineGroup)
  | lowLoadEmpty
  | powersMissing
  | noPower (group : EngineGroup)
  -- Configurations
  | partMissing (name : String)
  | seaMarginNotNumber
  | formatUnsupported (path : String)
  | fileUnreadable
  | jsonMalformed
  | tomlMalformed
  -- Calculations
  | modeNotMoving (mode : Mode)
  | modeMoving (mode : Mode)
  | fault (cause : Fault Float)

namespace Error

/-- What sort of thing is wrong. Unknown modes and groups of engines are sorts of their own. -/
def kind : Error → ErrorKind
  | .boundsNotNumbers _ _ => .value
  | .word (.unknown kind _) =>
    if kind = "mode" then .mode else if kind = "engine group" then .engineGroup else .value
  | .word (.notScalar _) => .value
  | .attributeUnknown _ => .value
  | .attributeMissing _ => .value
  | .attributeNotNumber _ _ => .value
  | .tierRefused _ => .value
  | .particularsRefused _ => .value
  | .sizeWithoutType _ => .input
  | .buildYearNotNumber _ => .input
  | .noPower _ => .engineGroup
  | .fileUnreadable => .file
  | .jsonMalformed => .json
  | .tomlMalformed => .toml
  | .modeNotMoving _ => .mode
  | .modeMoving _ => .mode
  | .fault cause => if cause.isValueFault then .value else .input
  | _ => .configuration

/-- Words as data. -/
def shownWords (words : List String) : String := Text.bracketed (words.map Text.quoted)

/-- The cause in words, without its sort. -/
def text : Error → String
  | .nameTaken name => name ++ " was already registered"
  | .nameUnknown name => "invalid criterion name " ++ name
  | .foreignName name => "attribute names in criteria don't match " ++ name
  | .constantRefused criterion => "invalid " ++ criterion.name ++ " in " ++ criterion.shown
  | .boundsNotNumbers lower upper =>
    "range bounds [" ++ NumberStyle.plain.text lower ++ ", " ++ NumberStyle.plain.text upper ++
      ") must be numbers"
  | .ruleNotObject doc => "rule must be a mapping: " ++ doc.compact
  | .criteriaMissing doc => "missing criteria in " ++ doc.compact
  | .rulesNotList doc => "expected a list of rules: " ++ doc.compact
  | .namedRulesNotObject doc => "expected a mapping of rule lists: " ++ doc.compact
  | .dataRefused data => "invalid rule data " ++ data.compact
  | .constantNotScalar name cause => "invalid criterion for " ++ name ++ ": " ++ cause.text
  | .boundsRefused name doc => "range bounds for " ++ name ++ " must be numbers: " ++ doc.compact
  | .specRefused name doc => "invalid criterion for " ++ name ++ ": " ++ doc.compact
  | .word cause => cause.text
  | .attributeUnknown name => name ++ " is not a vessel attribute"
  | .attributeMissing name => "missing vessel attribute " ++ name
  | .attributeNotNumber name value => name ++ " must be a number, got " ++ value.plain
  | .tierRefused value => "invalid engine_nox_tier " ++ value.plain
  | .particularsRefused particulars => "invalid vessel info " ++ particulars.shown
  | .guessNotScalar name cause =>
    "invalid vessel info guess data for " ++ name ++ ": " ++ cause.text
  | .guessRefused data cause =>
    "unable to build vessel info from " ++ data.shown ++ ": " ++ cause.kind.label ++ ": " ++
      text cause
  | .sizeIncomplete data =>
    "attributes " ++ shownWords ["ship_type", "size", "size_unit"] ++
      " must always be specified together, not the case with " ++ data.shown
  | .defaultsMissing names =>
    "attributes " ++ shownWords names ++ " are not present in a criteria-less config"
  | .sizesMissing types =>
    "no sizes and units specified for ship types " ++ shownWords (types.map Vocabulary.word)
  | .buildTimeDefaultMissing => "no criteria-less average vessel build time exists"
  | .buildTimeMissing => "no matching average vessel build time"
  | .sizeWithoutType attributes => "size specified without a ship type in " ++ attributes.shown
  | .buildYearNotNumber value => "year_of_build must be a number, got " ++ value.plain
  | .factorGroups => "missing or invalid emission factor engine groups"
  | .powerGroups => "missing or invalid engine power engine groups"
  | .baseValueUnknown name => "no existing base_value_name " ++ name
  | .powerDefaultsMissing groups =>
    "no criteria-less engine powers for engine groups " ++
      Text.bracketed (groups.map Vocabulary.shown)
  | .lowLoadEmpty => "no low-load adjustment defined in rule"
  | .powersMissing => "no engine power rules"
  | .noPower group => "no engine power for " ++ Vocabulary.word group
  | .partMissing name => "missing config part " ++ name
  | .seaMarginNotNumber => "sea_margin_adjustment_factor must be a number"
  | .formatUnsupported path => "unsupported config format: " ++ path
  | .fileUnreadable => "the file is missing or no text"
  | .jsonMalformed => "the text is no document"
  | .tomlMalformed => "the text is no configuration"
  | .modeNotMoving mode => "invalid mode " ++ Vocabulary.word mode ++ " for track emissions"
  | .modeMoving mode => "invalid mode " ++ Vocabulary.word mode ++ " for mooring emissions"
  | .fault cause => cause.text

/-- The error in words: its sort, then its cause. -/
def message (e : Error) : String := e.kind.label ++ ": " ++ e.text

end Error

end ShipEmissions
