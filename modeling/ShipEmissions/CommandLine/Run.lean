import ShipEmissions.CommandLine.Arguments
import ShipEmissions.Config
import ShipEmissions.Emission.HourLimits
import ShipEmissions.Track.Sanitized

/-!
# Running commands

A command reads its files, computes and gives a document, or stops at the first thing that goes
wrong: the limits of hours are read first, then the hours are checked, then the configuration, the
attributes of the vessel and the position reports are read.

Files are read by a function that gives the text of a file, or `none` if there is no such text.
-/

namespace ShipEmissions

namespace CommandLine

/-- Why a command stops. -/
inductive Failure where
  | limitsUnreadable (path : String)
  | limitsMalformed (path : String)
  | hoursRefused (hours : Float)
  | configRefused (path : String)
  | attributesMalformed (text : String)
  | attributesNotObject (doc : Json)
  | attributeRefused (name : String)
  | positionsUnreadable (path : String)
  | positionsMalformed (path : String)
  | trackRefused
  | error (cause : Error)

/-- What went wrong, in words. -/
def Failure.text : Failure → String
  | .limitsUnreadable path => "reading sanitizer parameters from " ++ path
  | .limitsMalformed path => "parsing " ++ path
  | .hoursRefused hours =>
    "hours must be a non-negative number, got " ++ NumberStyle.plain.text hours
  | .configRefused path => "loading config " ++ path
  | .attributesMalformed text => "parsing attributes " ++ text
  | .attributesNotObject doc => "attributes must be a JSON object, got " ++ doc.compact
  | .attributeRefused name => "attribute " ++ name
  | .positionsUnreadable path => "reading positions from " ++ path
  | .positionsMalformed path => "parsing positions in " ++ path
  | .trackRefused => "sanitizing track"
  | .error cause => cause.message

/-! ## Reading -/

/-- The result of a step, with the failure that its error amounts to. -/
def failing {ε α : Type} (failure : ε → Failure) : Except ε α → Except Failure α :=
  Except.mapError failure

/-- The limits that the text of a file gives. -/
def limitsOfText? (path : String) (text : Option String) : Except Failure (HourLimits Float) :=
  match text with
  | none => .error (.limitsUnreadable path)
  | some text =>
    match Toml.read? text >>= HourLimits.ofJson? with
    | some limits => .ok limits
    | none => .error (.limitsMalformed path)

/-- The attributes that a document gives. -/
def attributesOfJson? (doc : Json) : Except Failure Bag :=
  match doc.fields? with
  | none => .error (.attributesNotObject doc)
  | some fields => Bag.ofFields? (fun name _ => .attributeRefused name) fields

/-- The attributes that a text gives. -/
def attributes? (text : String) : Except Failure Bag :=
  match Json.read? text with
  | none => .error (.attributesMalformed text)
  | some doc => attributesOfJson? doc

/-- The reports that the text of a file gives. No field of a report may be given twice; fields that
reports do not have may hold anything. -/
def reportsOfText? (path : String) (text : Option String) :
    Except Failure (List (Report Float)) :=
  match text with
  | none => .error (.positionsUnreadable path)
  | some text =>
    match Json.readRecords? Report.names text >>= List.mapM Report.ofJson? with
    | some reports => .ok reports
    | none => .error (.positionsMalformed path)

/-- The configuration that the text of a file gives. -/
def config? (path : String) (text : Option String) : Except Failure Config :=
  failing (fun _ => .configRefused path) (Config.ofFile? .builtIn path text)

/-- The vessel that a text with attributes is completed to. -/
def vessel? (config : Config) (text : String) : Except Failure (Vessel Float) := do
  let given ← attributes? text
  failing .error (config.guesser.vessel? given)

/-- The track that reports make, if all of them are plausible. -/
def track? (reports : List (Report Float)) : Except Failure (Track Float) :=
  failing (fun _ => .trackRefused) (Track.sanitized? (m := Id) .lenient reports)

/-! ## Commands -/

/-- Masses as a document. -/
def massesToJson (masses : Pollutants Float) : Json :=
  .object (masses.toList.map fun (name, grams) => (name, .ofFloat grams))

/-- The time that a number of hours is, to the nearest millisecond. -/
def timeOfHours? (hours : Float) : Except Failure Duration :=
  if Scalar.isFinite hours ∧ 0 ≤ hours then .ok (.ofMillis (Scalar.round (hours * 3600000)))
  else .error (.hoursRefused hours)

variable {m : Type → Type} [Monad m]

/-- Runs a command under limits for the hours of segments. -/
def Command.run? (read : String → m (Option String)) (limits : HourLimits Float) :
    Command → ExceptT Failure m Json
  | .guess configPath text => do
    let config ← config? configPath (← read configPath)
    let given ← attributes? text
    let guessed ← failing .error (config.guesser.complete? given)
    return Bag.toJson guessed
  | .track configPath positionsPath mode text => do
    let config ← config? configPath (← read configPath)
    let vessel ← vessel? config text
    let reports ← reportsOfText? positionsPath (← read positionsPath)
    let track ← track? reports
    let masses ← failing .error ((config.calculator vessel limits.hours).trackEmissions? track mode)
    return massesToJson masses
  | .mooring configPath hours mode text => do
    let time ← timeOfHours? hours
    let config ← config? configPath (← read configPath)
    let vessel ← vessel? config text
    let calculator := config.calculator vessel limits.hours
    let masses ← failing .error (calculator.mooringEmissions? time mode)
    return massesToJson masses

/-- Runs what the command line asks for. -/
def Invocation.run? (read : String → m (Option String)) (invocation : Invocation) :
    m (Except Failure Json) :=
  ExceptT.run do
    let limits ←
      match invocation.limits with
      | some path => do limitsOfText? path (← read path)
      | none => pure HourLimits.standard
    invocation.command.run? read limits

end CommandLine

end ShipEmissions
