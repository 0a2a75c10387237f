import ShipEmissions.Decimal.Reader
import ShipEmissions.Vocabulary.Reader
import ShipEmissions.Vocabulary.Engine

/-!
# Arguments of the command line

An option is written `--name VALUE`, `--name=VALUE`, `-n VALUE`, `-nVALUE` or `-n=VALUE` and may be
given once. A value of its own argument must not look like an option; a lone `-` does not.

* `Invocation.ofArguments?` gives the command that arguments ask for, or `none` if they are not used
  as they should be.
* The option `--sanitizer` may stand before the command or behind it; behind it, it counts more.
-/

namespace ShipEmissions

namespace CommandLine

/-! ## Options -/

/-- An option with a value. -/
structure Flag where
  name : String
  letter : Option Char
  /-- Whether the value is the path of a file, which is not empty. -/
  isPath : Bool

/-- What an argument looks like. -/
inductive Argument where
  | plain
  /-- The end of all options. -/
  | separator
  /-- An option by its name, with the value that is attached to it. -/
  | named (name : String) (value : Option String)
  /-- An option by its letter, with the value that is attached to it. -/
  | lettered (letter : Char) (value : Option String)

/-- A text without the sign `=` it may start with. -/
def withoutEquals : List Char → String
  | '=' :: value => String.ofList value
  | value => String.ofList value

/-- What an argument looks like. -/
def Argument.ofText (text : String) : Argument :=
  match text.toList with
  | '-' :: '-' :: [] => .separator
  | '-' :: '-' :: rest =>
    let name := String.ofList (rest.takeWhile (· != '='))
    match rest.dropWhile (· != '=') with
    | _ :: value => .named name (some (String.ofList value))
    | [] => .named name none
  | '-' :: letter :: [] => .lettered letter none
  | '-' :: letter :: value => .lettered letter (some (withoutEquals value))
  | _ => .plain

/-- The option that an argument names, with the value that is attached to it. -/
def Argument.flag? (flags : List Flag) : Argument → Option (Flag × Option String)
  | .named name value =>
    (flags.find? fun flag => flag.name == name).map fun flag => (flag, value)
  | .lettered letter value =>
    (flags.find? fun flag => flag.letter == some letter).map fun flag => (flag, value)
  | _ => none

/-- Values by the names of their options. -/
abbrev Settings := List (String × String)

/-- The settings with that of an option put in front, if it has none yet. -/
def Settings.add? (settings : Settings) (flag : Flag) (value : String) : Option Settings :=
  if (settings.lookup flag.name).isSome || flag.isPath && value.isEmpty then none
  else some ((flag.name, value) :: settings)

/-- Reads options up to the first argument that is none, and gives the arguments from there on. -/
def settings? (flags : List Flag) (read : Settings) : List String → Option (Settings × List String)
  | [] => some (read, [])
  | [text] =>
    match Argument.ofText text with
    | .plain => some (read, [text])
    | .separator => some (read, [])
    | argument =>
      match argument.flag? flags with
      | some (flag, some value) => (read.add? flag value).map fun read => (read, [])
      | _ => none
  | text :: next :: rest =>
    match Argument.ofText text with
    | .plain => some (read, text :: next :: rest)
    | .separator => none
    | argument =>
      match argument.flag? flags with
      | some (flag, some value) => (read.add? flag value).bind fun read =>
        settings? flags read (next :: rest)
      | some (flag, none) =>
        match Argument.ofText next with
        | .plain => (read.add? flag next).bind fun read => settings? flags read rest
        | _ => none
      | none => none

/-! ## Numbers -/

/-- The number that an argument stands for: a decimal with digits on at least one side of its point,
or a name for infinity or for what is no number, in any case. -/
def number? (text : String) : Option Float :=
  let (sign, size) := Decimal.takeSign text.toList
  let signed (x : Float) : Float := if sign = some '-' then -x else x
  let word := String.ofList (size.map Char.toLower)
  if word = "inf" ∨ word = "infinity" then some (signed (1 / 0))
  else if word = "nan" then some (0 / 0)
  else do
    let d ← Decimal.split text.toList
    let digits := d.whole ++ d.fraction.getD []
    if digits.isEmpty || d.exponent.any fun e => e.2.isEmpty then none
    else return d.toFloat

/-! ## Commands -/

/-- What is asked for. -/
inductive Command where
  /-- The attributes of a vessel, completed. -/
  | guess (config attributes : String)
  /-- The emissions on a track. -/
  | track (config positions : String) (mode : Mode) (vessel : String)
  /-- The emissions of a vessel that is moored for some hours. -/
  | mooring (config : String) (hours : Float) (mode : Mode) (vessel : String)

/-- What is asked for, and the file with the limits of the hours that count, if there is one. -/
structure Invocation where
  limits : Option String
  command : Command

/-- The option that every command has. -/
def limitsFlag : Flag := ⟨"sanitizer", none, true⟩

/-- The option for the configuration. -/
def configFlag : Flag := ⟨"config", some 'c', true⟩

/-- The option for the mode. -/
def modeFlag : Flag := ⟨"mode", some 'm', false⟩

/-- The option for the attributes of a vessel whose emissions are computed. -/
def vesselFlag : Flag := ⟨"vessel", some 'v', false⟩

/-- The option for the attributes of a vessel to complete. -/
def attributesFlag : Flag := ⟨"attrs", some 'a', false⟩

/-- The option for the position reports. -/
def positionsFlag : Flag := ⟨"positions", some 'p', true⟩

/-- The option for the hours that a vessel is moored. -/
def hoursFlag : Flag := ⟨"hours", none, false⟩

/-- The options of a command besides the one that every command has. -/
def flagsOf? : String → Option (List Flag)
  | "guess" => some [configFlag, attributesFlag]
  | "track" => some [configFlag, positionsFlag, modeFlag, vesselFlag]
  | "mooring" => some [configFlag, hoursFlag, modeFlag, vesselFlag]
  | _ => none

/-- The mode that is set, or another one if none is. -/
def mode? (settings : Settings) (standard : Mode) : Option Mode :=
  match settings.lookup modeFlag.name with
  | some word => Vocabulary.ofWord? word
  | none => some standard

/-- The attributes that are set, or an object without any. -/
def attributes (settings : Settings) (flag : Flag) : String :=
  (settings.lookup flag.name).getD "\x7b\x7d"

/-- The command with these settings. -/
def Command.ofSettings? (settings : Settings) : String → Option Command
  | "guess" => do
    let config ← settings.lookup configFlag.name
    return .guess config (attributes settings attributesFlag)
  | "track" => do
    let config ← settings.lookup configFlag.name
    let positions ← settings.lookup positionsFlag.name
    let mode ← mode? settings .transit
    return .track config positions mode (attributes settings vesselFlag)
  | "mooring" => do
    let config ← settings.lookup configFlag.name
    let hours ← settings.lookup hoursFlag.name >>= number?
    let mode ← mode? settings .hotelling
    return .mooring config hours mode (attributes settings vesselFlag)
  | _ => none

/-- What arguments ask for. -/
def Invocation.ofArguments? (arguments : List String) : Option Invocation := do
  let (outer, rest) ← settings? [limitsFlag] [] arguments
  match rest with
  | [] => none
  | name :: rest =>
    let flags ← flagsOf? name
    let (settings, rest) ← settings? (limitsFlag :: flags) [] rest
    if rest.isEmpty then
      let command ← Command.ofSettings? settings name
      return ⟨(settings.lookup limitsFlag.name).or (outer.lookup limitsFlag.name), command⟩
    else none

end CommandLine

end ShipEmissions
