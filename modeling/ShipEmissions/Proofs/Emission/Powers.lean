import ShipEmissions.Config
import ShipEmissions.Proofs.Guess.Checks

/-!
# Powers of accepted rules

Rules for powers are only accepted if auxiliary engines and boilers have a rule each that asks for
nothing but the group of engines. Such a rule was tried on a bag with the group alone. It matches
the bag of every vessel with the group put in, since criteria go on being met when a bag grows.

* `matchesBag_of_isDefaultFor`: a default rule matches every bag with its group.
* `configFor?_eq_ok`: accepted rules give factors and powers for every vessel in every mode.
* `withFixedEmissions?_eq_ok`: auxiliary engines and boilers never lack a power.
* `emissions_fail_iff`: the mode is the only thing that can be wrong in a calculation.
-/

namespace ShipEmissions

/-- Tables that list every group once, and auxiliary engines and boilers once, are accepted. -/
theorem EmissionConfig.ofTables?_eq_ok {α : Type} [Scalar α] (factors : EngineGroup → Pollutants α)
    (auxiliaryKw boilerKw : α) (lowLoad : List (Interval α × Pollutants α)) :
    EmissionConfig.ofTables?
        ((Vocabulary.all : List EngineGroup).map fun group => (group, factors group))
        [(.auxiliary, auxiliaryKw), (.boiler, boilerKw)] lowLoad =
      .ok { factors, auxiliaryKw, boilerKw, lowLoad } := by
  have hgroups : (((Vocabulary.all : List EngineGroup).map fun group =>
      (group, factors group)).map Prod.fst).isPerm (Vocabulary.all : List EngineGroup) = true := rfl
  have hlookup : (fun group => (((Vocabulary.all : List EngineGroup).map fun group =>
      (group, factors group)).lookup group).getD ∅) = factors := by
    funext group
    cases group <;> rfl
  rw [EmissionConfig.ofTables?, hgroups, hlookup]
  rfl

namespace FactorRules

variable {rules : FactorRules} {group : EngineGroup} {mode : Mode}

/-! ## Default rules -/

/-- A rule that was found to be a default for a group matches every bag with that group. -/
theorem matchesBag_of_isDefaultFor {δ : Type} {r : Rule δ} (h : isDefaultFor group r = true)
    (bag : Bag) : r.matchesBag (withGroup bag group) = true := by
  rw [isDefaultFor, Bool.or_eq_true, Bool.and_eq_true] at h
  rcases h with h | ⟨-, h⟩
  · exact Rule.matchesBag_of_isUnconditional h _
  · refine Rule.matchesBag_of_within ?_ h
    intro name v hv
    rw [Bag.getElem?_ofList_singleton] at hv
    split at hv
    · next hname => rw [withGroup, Bag.getElem?_insert, if_pos hname, hv]
    · cases hv

/-- What acceptance says about the rules for powers. -/
theorem powers_of_ofRules? {baseValues pollutants : NamedRules}
    {powers lowLoad : List (Rule Json.Fields)}
    (h : ofRules? baseValues pollutants powers lowLoad = .ok rules) :
    powers.mapM (Rule.typed? ModePowers.ofData?) = .ok rules.powers ∧
      ∀ group ∈ EngineGroup.nonPropulsion, ∃ r ∈ rules.powers, isDefaultFor group r = true := by
  obtain ⟨typedBases, -, h⟩ := Outcome.bind_eq_ok.1 h
  obtain ⟨typedPollutants, -, h⟩ := Outcome.bind_eq_ok.1 h
  split at h
  · cases h
  · obtain ⟨typedPowers, hpowers, h⟩ := Outcome.bind_eq_ok.1 h
    dsimp only at h
    split at h
    · cases h
    · next hmissing =>
      obtain ⟨typedLowLoad, -, h⟩ := Outcome.bind_eq_ok.1 h
      split at h
      · cases h
      · cases h
        refine ⟨hpowers, ?_⟩
        intro group hgroup
        simp only [Bool.not_eq_true', Bool.not_eq_false, List.isEmpty_iff,
          List.filter_eq_nil_iff, List.any_eq_true] at hmissing
        exact hmissing group hgroup

/-! ## Powers -/

/-- Powers are read from the fields that are named after the modes. -/
theorem lookup_of_ofData? {data : Json.Fields} {p : ModePowers}
    (h : ModePowers.ofData? data = some p) (mode : Mode) :
    (data.lookup (Vocabulary.word mode)).bind Json.number? = some (p.at mode) := by
  obtain ⟨transit, htransit, h⟩ := Option.bind_eq_some_iff.1 h
  obtain ⟨maneuvering, hmaneuvering, h⟩ := Option.bind_eq_some_iff.1 h
  obtain ⟨hotelling, hhotelling, h⟩ := Option.bind_eq_some_iff.1 h
  obtain ⟨anchorage, hanchorage, h⟩ := Option.bind_eq_some_iff.1 h
  cases h
  cases mode with
  | transit => exact htransit
  | maneuvering => exact hmaneuvering
  | hotelling => exact hhotelling
  | anchorage => exact hanchorage

/-- The power of a group that has a default rule is that of the first rule that matches. -/
theorem powerFor?_eq_ok (h : ∃ r ∈ rules.powers, isDefaultFor group r = true) (bag : Bag)
    (mode : Mode) :
    ∃ i r, Rule.IsFirst (fun r => r.matchesBag (withGroup bag group)) rules.powers i r ∧
      rules.powerFor? bag group mode = .ok (r.data.at mode) := by
  obtain ⟨d, hd, hdefault⟩ := h
  obtain ⟨i, r, hr⟩ := Rule.exists_isFirst
    (p := fun r : Rule ModePowers => r.matchesBag (withGroup bag group)) hd
    (matchesBag_of_isDefaultFor hdefault bag)
  refine ⟨i, r, hr, ?_⟩
  rw [powerFor?, Rule.firstMatch?_eq_some_iff.2 ⟨i, r, hr, rfl⟩]

/-- The tables that rules resolve to have every group that is asked for. -/
theorem configFor?_eq_ok {auxiliaryKw boilerKw : Float} (vessel : Vessel Float)
    (hauxiliary : rules.powerFor? vessel.toBag .auxiliary mode = .ok auxiliaryKw)
    (hboiler : rules.powerFor? vessel.toBag .boiler mode = .ok boilerKw) :
    rules.configFor? vessel mode = .ok {
      factors := rules.factorsFor vessel.toBag
      auxiliaryKw := auxiliaryKw
      boilerKw := boilerKw
      lowLoad := rules.lowLoadFor vessel.toBag } := by
  have hpowers : EngineGroup.nonPropulsion.mapM (fun group =>
      (rules.powerFor? vessel.toBag group mode).map fun kw => (group, kw)) =
      .ok [(.auxiliary, auxiliaryKw), (.boiler, boilerKw)] := by
    rw [Outcome.mapM_eq_ok_iff]
    exact .cons (by rw [hauxiliary]; rfl) (.cons (by rw [hboiler]; rfl) .nil)
  rw [configFor?, hpowers]
  exact EmissionConfig.ofTables?_eq_ok _ _ _ _

/-- Accepted rules give factors for every group, and the powers that the first matching rules have
for the mode. -/
theorem exists_config {baseValues pollutants : NamedRules}
    {powers lowLoad : List (Rule Json.Fields)}
    (h : ofRules? baseValues pollutants powers lowLoad = .ok rules) (vessel : Vessel Float)
    (mode : Mode) :
    ∃ config, rules.configFor? vessel mode = .ok config ∧
      (∀ group, config.factors group = rules.factorsFor vessel.toBag group) ∧
      ∀ group ∈ EngineGroup.nonPropulsion, ∃ i r kw,
        Rule.IsFirst (fun r => r.matchesBag (withGroup vessel.toBag group)) powers i r ∧
          r.number? (Vocabulary.word mode) = some kw ∧ config.power? group = .ok kw := by
  obtain ⟨htyped, hdefaults⟩ := powers_of_ofRules? h
  have hpower : ∀ group ∈ EngineGroup.nonPropulsion, ∃ i r kw,
      Rule.IsFirst (fun r => r.matchesBag (withGroup vessel.toBag group)) powers i r ∧
        r.number? (Vocabulary.word mode) = some kw ∧
        rules.powerFor? vessel.toBag group mode = .ok kw := by
    intro group hgroup
    obtain ⟨i, r, hr, hvalue⟩ := powerFor?_eq_ok (hdefaults group hgroup) vessel.toBag mode
    obtain ⟨r', hr', hdata⟩ := Rule.isFirst_of_mapM_typed? htyped hr
    exact ⟨i, r', _, hr', lookup_of_ofData? hdata mode, hvalue⟩
  obtain ⟨i, r, auxiliaryKw, hr, hnumber, hauxiliary⟩ := hpower .auxiliary (by decide)
  obtain ⟨j, s, boilerKw, hs, hnumber', hboiler⟩ := hpower .boiler (by decide)
  refine ⟨_, configFor?_eq_ok vessel hauxiliary hboiler, fun group => rfl, ?_⟩
  intro group hgroup
  cases group with
  | propulsion => exact absurd hgroup (by decide)
  | auxiliary => exact ⟨i, r, auxiliaryKw, hr, hnumber, rfl⟩
  | boiler => exact ⟨j, s, boilerKw, hs, hnumber', rfl⟩

end FactorRules

/-! ## Calculations -/

theorem EmissionConfig.power?_eq_ok_iff {α : Type} [Scalar α] (config : EmissionConfig α)
    (group : EngineGroup) :
    (∃ kw, config.power? group = .ok kw) ↔ group ∈ EngineGroup.nonPropulsion := by
  cases group with
  | propulsion => exact ⟨fun ⟨_, h⟩ => (by cases h), fun h => absurd h (by decide)⟩
  | auxiliary => exact ⟨fun _ => by decide, fun _ => ⟨_, rfl⟩⟩
  | boiler => exact ⟨fun _ => by decide, fun _ => ⟨_, rfl⟩⟩

namespace Calculator

variable {α : Type} [Scalar α] {c : Calculator α} {mode : Mode} {e : Error}

/-- Auxiliary engines and boilers never lack a power. -/
theorem withFixedEmissions?_eq_ok (config : EmissionConfig α) (hours : α) (masses : Pollutants α) :
    withFixedEmissions? config hours masses =
      .ok ((masses.add (config.emissions .auxiliary (config.auxiliaryKw * hours))).add
        (config.emissions .boiler (config.boilerKw * hours))) := by
  have hmaps : EngineGroup.nonPropulsion.mapM (fixedEmissions? config hours) =
      .ok [config.emissions .auxiliary (config.auxiliaryKw * hours),
        config.emissions .boiler (config.boilerKw * hours)] := by
    rw [Outcome.mapM_eq_ok_iff]
    exact .cons rfl (.cons rfl .nil)
  exact Outcome.map_eq_ok.2 ⟨_, hmaps, rfl⟩

/-- Where factors and powers can be found, the mode is the only thing that can be wrong for a
track. -/
theorem trackEmissions?_eq_error_iff (h : ∃ config, c.configFor? c.vessel mode = .ok config)
    (t : Track α) :
    c.trackEmissions? t mode = .error e ↔ mode.isMoving = false ∧ e = .modeNotMoving mode := by
  obtain ⟨config, hconfig⟩ := h
  rw [trackEmissions?]
  cases mode.isMoving with
  | false =>
    rw [if_neg Bool.false_ne_true]
    exact ⟨fun he => ⟨rfl, (Except.error.inj he).symm⟩, fun he => by rw [he.2]⟩
  | true =>
    rw [if_pos rfl, hconfig]
    show withFixedEmissions? config t.hours _ = .error e ↔ _
    rw [withFixedEmissions?_eq_ok]
    exact ⟨fun he => (by cases he), fun he => (by cases he.1)⟩

/-- Where factors and powers can be found, the mode is the only thing that can be wrong for a
moored vessel. -/
theorem mooringEmissions?_eq_error_iff (h : ∃ config, c.configFor? c.vessel mode = .ok config)
    (time : Duration) :
    c.mooringEmissions? time mode = .error e ↔ mode.isMoving = true ∧ e = .modeMoving mode := by
  obtain ⟨config, hconfig⟩ := h
  rw [mooringEmissions?]
  cases mode.isMoving with
  | true =>
    rw [if_pos rfl]
    exact ⟨fun he => ⟨rfl, (Except.error.inj he).symm⟩, fun he => by rw [he.2]⟩
  | false =>
    rw [if_neg Bool.false_ne_true, hconfig]
    show withFixedEmissions? config time.hours _ = .error e ↔ _
    rw [withFixedEmissions?_eq_ok]
    exact ⟨fun he => (by cases he), fun he => (by cases he.1)⟩

end Calculator

theorem Mode.isMoving_iff {mode : Mode} :
    mode.isMoving = true ↔ mode = .transit ∨ mode = .maneuvering := by
  cases mode <;> simp [Mode.isMoving]

theorem Mode.not_isMoving_iff {mode : Mode} :
    mode.isMoving = false ↔ mode = .hotelling ∨ mode = .anchorage := by
  cases mode <;> simp [Mode.isMoving]

namespace Config

/-- The rules in a configuration have passed their checks. -/
theorem rules_of_ofJson? {names : Names} {doc : Json} {config : Config}
    (h : ofJson? names doc = .ok config) :
    (∃ baseValues pollutants powers lowLoad,
      FactorRules.ofRules? baseValues pollutants powers lowLoad = .ok config.factors) ∧
    ∃ guesses buildTimes, Guesser.ofRules? guesses buildTimes = .ok config.guesser := by
  obtain ⟨seaMargin, -, h⟩ := Outcome.bind_eq_ok.1 h
  obtain ⟨baseValues, -, h⟩ := Outcome.bind_eq_ok.1 h
  obtain ⟨pollutants, -, h⟩ := Outcome.bind_eq_ok.1 h
  obtain ⟨powers, -, h⟩ := Outcome.bind_eq_ok.1 h
  obtain ⟨guesses, -, h⟩ := Outcome.bind_eq_ok.1 h
  obtain ⟨buildTimes, -, h⟩ := Outcome.bind_eq_ok.1 h
  obtain ⟨lowLoad, -, h⟩ := Outcome.bind_eq_ok.1 h
  obtain ⟨factors, hfactors, h⟩ := Outcome.bind_eq_ok.1 h
  obtain ⟨guesser, hguesser, h⟩ := Outcome.bind_eq_ok.1 h
  cases h
  exact ⟨⟨baseValues, pollutants, powers, lowLoad, hfactors⟩, guesses, buildTimes, hguesser⟩

theorem factors_of_ofJson? {names : Names} {doc : Json} {config : Config}
    (h : ofJson? names doc = .ok config) : ∃ baseValues pollutants powers lowLoad,
      FactorRules.ofRules? baseValues pollutants powers lowLoad = .ok config.factors :=
  (rules_of_ofJson? h).1

/-- Accepted rules give factors and powers for every vessel in every mode. So calculations with an
accepted configuration fail iff the mode does not fit, and say so. -/
theorem emissions_fail_iff :
    (∀ (baseValues pollutants : FactorRules.NamedRules) (powers lowLoad : List (Rule Json.Fields))
      (rules : FactorRules), FactorRules.ofRules? baseValues pollutants powers lowLoad = .ok rules →
      ∀ (vessel : Vessel Float) (mode : Mode), ∃ config,
        rules.configFor? vessel mode = .ok config ∧
        (∀ group, config.factors group = rules.factorsFor vessel.toBag group) ∧
        (∀ group, (∃ kw, config.power? group = .ok kw) ↔ group ∈ EngineGroup.nonPropulsion) ∧
        ∀ group ∈ EngineGroup.nonPropulsion, ∃ i r kw,
          Rule.IsFirst (fun r => r.matchesBag (FactorRules.withGroup vessel.toBag group))
            powers i r ∧
          r.number? (Vocabulary.word mode) = some kw ∧ config.power? group = .ok kw) ∧
    (∀ (names : Names) (doc : Json) (config : Config), Config.ofJson? names doc = .ok config →
      ∀ (vessel : Vessel Float) (segmentHours : Segment Float → Float) (mode : Mode) (e : Error),
        (∀ t : Track Float,
          (config.calculator vessel segmentHours).trackEmissions? t mode = .error e ↔
            (mode = .hotelling ∨ mode = .anchorage) ∧ e = .modeNotMoving mode) ∧
        (∀ time : Duration,
          (config.calculator vessel segmentHours).mooringEmissions? time mode = .error e ↔
            (mode = .transit ∨ mode = .maneuvering) ∧ e = .modeMoving mode)) ∧
    ∀ mode : Mode, (Error.modeNotMoving mode).kind = .mode ∧
      (Error.modeMoving mode).kind = .mode := by
  refine ⟨?_, ?_, fun _ => ⟨rfl, rfl⟩⟩
  · intro baseValues pollutants powers lowLoad rules hrules vessel mode
    obtain ⟨config, hconfig, hfactors, hpowers⟩ := FactorRules.exists_config hrules vessel mode
    exact ⟨config, hconfig, hfactors, config.power?_eq_ok_iff, hpowers⟩
  · intro names doc config hdoc vessel segmentHours mode e
    obtain ⟨baseValues, pollutants, powers, lowLoad, hrules⟩ := factors_of_ofJson? hdoc
    obtain ⟨resolved, hresolved, -⟩ := FactorRules.exists_config hrules vessel mode
    have hcalculator : ∃ resolved, (config.calculator vessel segmentHours).configFor?
        (config.calculator vessel segmentHours).vessel mode = .ok resolved := ⟨resolved, hresolved⟩
    constructor
    · intro t
      rw [Calculator.trackEmissions?_eq_error_iff hcalculator, Mode.not_isMoving_iff]
    · intro time
      rw [Calculator.mooringEmissions?_eq_error_iff hcalculator, Mode.isMoving_iff]

/-- A configuration without pollutants, with the small set of rules for guessing. -/
def sampleDocument : Json := .object [
  ("sea_margin_adjustment_factor", .number (.integer 1)),
  ("base_values", .object []),
  ("pollutants", .object []),
  ("default_engine_powers", .array [.object [
    ("match_criteria", .object []),
    ("transit", .number (.integer 100)),
    ("maneuvering", .number (.integer 200)),
    ("hotelling", .number (.integer 300)),
    ("anchorage", .number (.integer 400))]]),
  ("vessel_info_guess_data", GuessRules.sampleGuesses),
  ("average_vessel_build_times", GuessRules.sampleBuildTimes),
  ("low_load_adjustment_factors", .array [])]

theorem exists_sampleConfig : ∃ config, Config.ofJson? .builtIn sampleDocument = .ok config := by
  have hok : (Config.ofJson? .builtIn sampleDocument).toBool = true := by decide +kernel
  cases h : Config.ofJson? .builtIn sampleDocument with
  | error e => rw [h] at hok; cases hok
  | ok config => exact ⟨config, rfl⟩

/-- With that configuration, the standard vessel has factors and powers at berth, and a track at
berth is refused. -/
theorem emissions_fail_iff_sample : ∃ config : Config,
    Config.ofJson? .builtIn sampleDocument = .ok config ∧
    (∃ baseValues pollutants powers lowLoad,
      FactorRules.ofRules? baseValues pollutants powers lowLoad = .ok config.factors) ∧
    (∃ resolved, config.factors.configFor? config.guesser.standard .hotelling = .ok resolved) ∧
    ∀ t : Track Float, (config.calculator config.guesser.standard Segment.hours).trackEmissions? t
      .hotelling = .error (.modeNotMoving .hotelling) := by
  obtain ⟨config, hconfig⟩ := exists_sampleConfig
  obtain ⟨baseValues, pollutants, powers, lowLoad, hrules⟩ := factors_of_ofJson? hconfig
  obtain ⟨resolved, hresolved, -⟩ := emissions_fail_iff.1 _ _ _ _ _ hrules
    config.guesser.standard .hotelling
  refine ⟨config, hconfig, ⟨_, _, _, _, hrules⟩, ⟨resolved, hresolved⟩, ?_⟩
  intro t
  exact ((emissions_fail_iff.2.1 _ _ _ hconfig _ _ _ _).1 t).2 ⟨Or.inl rfl, rfl⟩

end Config

end ShipEmissions
