import ShipEmissions.Rule.Reader
import ShipEmissions.Vessel.Attributes

/-!
# Guessing what is not known about a vessel

Rules complete a partial bag of attributes. They are tried in order, each on the given attributes
overlaid with what has been gathered so far, and a rule contributes only attributes that are still
missing. Ship type, size and unit belong together: a rule's size counts only for a vessel of the
rule's ship type.

Engines of the third category get a second pass for their tier. If the year in which the keel was
laid is unknown but the year of build is known, an average time of building gives the former, and
the tier is gathered again.

* `GuessRules.complete?` completes a bag.
* `Guesser.ofRules?` checks rules and computes the vessel that is guessed when nothing is known.
-/

namespace ShipEmissions

/-- Rules for attributes, and rules for the years that building takes. -/
structure GuessRules where
  guesses : List (Rule Bag)
  buildTimes : List (Rule Float)

namespace GuessRules

/-! ## Gathering attributes -/

/-- Whether a name is an attribute that only counts together with the ship type. -/
def isSizeName (name : String) : Bool := name == "size" || name == "size_unit"

/-- Whether a ship type is the one that is known, or none is known. -/
def fitsShipType (known : Bag) (shipType : Value) : Bool :=
  match known["ship_type"]? with
  | none => true
  | some t => t.isNull || t == shipType

/-- What is known after a rule has contributed its data. Nothing that is known changes. -/
def contribute (known data : Bag) : Bag :=
  let known := Bag.overlay (data.filter fun name _ => !isSizeName name) known
  match data.present? "ship_type" with
  | none => known
  | some shipType =>
    if fitsShipType known shipType then
      Bag.overlay (data.filter fun name _ => isSizeName name) known
    else known

/-- What is known after one rule was tried. -/
def tryRule (context known : Bag) (r : Rule Bag) : Bag :=
  if r.matchesBag (Bag.overlay context known) then contribute known r.data else known

/-- What is known after the rules were tried in order, up to the first after which no attribute is
missing. -/
def gather (context : Bag) : List (Rule Bag) → Bag → Bag
  | [], known => known
  | r :: rs, known =>
    let known := tryRule context known r
    if known.size = Vessel.attributes.length then known else gather context rs known

/-! ## The second pass -/

/-- Whether the main engine is known to be of the third category. -/
def isThirdCategory (known : Bag) : Bool :=
  (known["engine_category"]?.bind (Value.term? EngineCategory)) == some .c3

/-- The tier gathered again with the year in which the keel was laid, where that year is missing and
can be told from the year of build. -/
def improveTier? (g : GuessRules) (known given : Bag) : Except Error Bag :=
  match given.present? "year_of_build" with
  | none => .ok known
  | some year =>
    if !isThirdCategory known || (given.present? "keel_laid_year").isSome then .ok known
    else
      match year.number? with
      | none => .error (.buildYearNotNumber year)
      | some year =>
        let known := known.erase "engine_nox_tier"
        let context := given.erase "keel_laid_year"
        match Rule.firstMatch? g.buildTimes (Bag.overlay context known) with
        | none => .error .buildTimeMissing
        | some years =>
          .ok (gather (context.insert "keel_laid_year" (.number (year - years))) g.guesses known)

/-- The attributes of vessels that a bag gives. -/
def givenAttributes (given : Bag) : Bag :=
  given.filter fun name v => Vessel.isAttribute name && !v.isNull

/-- Completes a bag. Attributes of vessels that are there and not null are kept; all other entries
only serve to match rules. A tier that is there keeps its place even if it is null. -/
def complete? (g : GuessRules) (given : Bag) : Except Error Bag :=
  if (given.present? "ship_type").isNone &&
      ((given.present? "size").isSome || (given.present? "size_unit").isSome) then
    .error (.sizeWithoutType given)
  else
    let known := gather given g.guesses (givenAttributes given)
    if given.contains "engine_nox_tier" then .ok known else g.improveTier? known given

/-! ## Checking rules -/

/-- A vessel that makes sense whatever a rule adds to it, except for what the rule itself says. -/
def neutral : Bag := .ofList [
  ("max_speed", .number 1),
  ("engine_kw", .number 1),
  ("engine_rpm", .number 1),
  ("engine_category", .ofTerm EngineCategory.c1),
  ("engine_nox_tier", .ofTier .tier1),
  ("ship_type", .ofTerm ShipType.misc),
  ("size", .number 0),
  ("size_unit", .ofTerm SizeUnit.notApplicable)]

/-- The attributes that a rule gives all together or not at all. -/
def typeAndSize : List String := ["ship_type", "size", "size_unit"]

/-- The data of a rule as a bag. -/
def bagOfData? (data : Json.Fields) : Except Error Bag := Bag.ofFields? .guessNotScalar data

/-- Checks that the data of a rule makes sense on a vessel, and gives type and size together. -/
def checkData? (data : Bag) : Except Error Unit :=
  match Vessel.ofBag? (Bag.overlay neutral data) with
  | .error e => .error (.guessRefused data e)
  | .ok _ =>
    if typeAndSize.any (fun name => data.contains name) &&
        !typeAndSize.all (fun name => data.contains name) then
      .error (.sizeIncomplete data)
    else .ok ()

/-- The attributes that no unconditional rule gives. -/
def missingDefaults (guesses : List (Rule Bag)) : List String :=
  Vessel.attributes.filter fun name =>
    !guesses.any fun r => r.isUnconditional && r.data.contains name

/-- Whether a rule that asks for nothing but the ship type gives a size for a type. -/
def givesSize (shipType : ShipType) (r : Rule Bag) : Bool :=
  r.isOnlyOn "ship_type" && r.data.contains "size" &&
    r.matchesBag (.ofList [("ship_type", .ofTerm shipType)])

/-- The ship types for which no rule that asks for nothing else gives a size. -/
def missingSizes (guesses : List (Rule Bag)) : List ShipType :=
  (Vocabulary.all : List ShipType).filter fun t => !guesses.any (givesSize t)

/-- Checks the rules for attributes. -/
def checkGuesses? (guesses : List (Rule Bag)) : Except Error Unit := do
  guesses.forM fun r => checkData? r.data
  let defaults := missingDefaults guesses
  if !defaults.isEmpty then .error (.defaultsMissing defaults)
  else
    let sizes := missingSizes guesses
    if !sizes.isEmpty then .error (.sizesMissing sizes) else .ok ()

/-- The years that building takes, from the data of a rule. -/
def buildTime? (data : Json.Fields) : Option Float :=
  (data.lookup "build_time_years").bind Json.number?

/-- Reads and checks rules. -/
def ofRules? (guesses buildTimes : List (Rule Json.Fields)) : Except Error GuessRules := do
  let guesses ← guesses.mapM (Rule.mapData? bagOfData?)
  checkGuesses? guesses
  let buildTimes ← buildTimes.mapM (Rule.typed? buildTime?)
  if buildTimes.any Rule.isUnconditional then return ⟨guesses, buildTimes⟩
  else .error .buildTimeDefaultMissing

end GuessRules

/-- Checked rules, and the vessel that they give when nothing is known. -/
structure Guesser extends GuessRules where
  standard : Vessel Float

/-- Reads and checks rules, and guesses the standard vessel from them. -/
def Guesser.ofRules? (guesses buildTimes : List (Rule Json.Fields)) : Except Error Guesser := do
  let rules ← GuessRules.ofRules? guesses buildTimes
  let attributes ← rules.complete? ∅
  let standard ← Vessel.ofBag? attributes
  return ⟨rules, standard⟩

/-- The vessel that a partial bag is completed to. -/
def Guesser.vessel? (g : Guesser) (given : Bag) : Except Error (Vessel Float) :=
  g.complete? given >>= Vessel.ofBag?

end ShipEmissions
