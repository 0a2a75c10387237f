import ShipEmissions.Proofs.Rule
import ShipEmissions.Proofs.Vessel
import ShipEmissions.Rule.Reader
import ShipEmissions.Vessel.Guess

/-!
# What the checks on guessing rules establish

The data of a rule is tried out on a vessel that makes sense, one rule at a time. What this says
about the data is put into a predicate on bags, and likewise for whole lists of rules.

* `SoundData`, `checkData?_eq_ok_iff`: every value makes sense by itself, and type, size and unit
  come together or not at all, with a unit for the type.
* `SoundGuesses`, `checkGuesses?_eq_ok_iff`: the data of all rules is sound, unconditional rules
  give every attribute, and every ship type meets a rule with a size.
* `sound_of_ofRules?`, `sound_of_guesser`: rules that were read have passed all checks.
* `criteria_of_guesser`: and they have kept their criteria.
-/

namespace ShipEmissions

namespace GuessRules

open Vessel (attributeFits isAttribute UnitFits)

variable {data : Bag} {guesses : List (Rule Bag)}

theorem isAttribute_of_fits {name : String} {v : Value} (h : attributeFits name v = true) :
    isAttribute name = true := by
  rw [Bag.isAttribute_iff]
  by_contra hname
  simp only [Vessel.attributes, List.mem_cons, List.not_mem_nil, or_false, not_or] at hname
  simp [attributeFits, hname] at h

/-- Every value of a bag is one of an attribute, and makes sense for it. -/
def Fitting (bag : Bag) : Prop :=
  ∀ (name : String) (v : Value), bag[name]? = some v → attributeFits name v = true

theorem Fitting.attributes {bag : Bag} (h : Fitting bag) :
    ∀ name ∈ bag, isAttribute name = true := by
  intro name hname
  obtain ⟨v, hv⟩ := Bag.mem_iff.1 hname
  exact isAttribute_of_fits (h name v hv)

theorem Fitting.shipType {bag : Bag} (h : Fitting bag) {v : Value}
    (hv : bag["ship_type"]? = some v) : ∃ t : ShipType, v = .ofTerm t :=
  Vessel.isSome_term?_iff.1 (h "ship_type" v hv)

/-! ## The data of one rule -/

/-- Data that adds nothing to a vessel but what makes sense on it. -/
structure SoundData (data : Bag) : Prop where
  fits : Fitting data
  together : ∀ a ∈ typeAndSize, a ∈ data → ∀ b ∈ typeAndSize, b ∈ data
  unit : "ship_type" ∈ data → UnitFits data

theorem SoundData.sizeUnit_mem (h : SoundData data) (htype : "ship_type" ∈ data) :
    "size_unit" ∈ data :=
  h.together "ship_type" (by decide) htype "size_unit" (by decide)

theorem neutral_eq_toBag : neutral =
    Vessel.toBag ⟨⟨1, 1, 1, .c1, .tier1, .misc, 0, .notApplicable⟩, by decide⟩ := rfl

theorem complete_neutral : Vessel.Complete neutral := by
  rw [neutral_eq_toBag]
  exact Vessel.exists_ofBag?_iff.1 ⟨_, Vessel.ofBag?_toBag _⟩

theorem fitting_of_complete {bag : Bag} (h : Vessel.Complete bag) : Fitting bag := by
  intro name v hv
  have hname := Bag.isAttribute_iff.1 (h.attributes name (Bag.mem_iff.2 ⟨v, hv⟩))
  obtain ⟨w, hw, hfits⟩ := h.has name hname
  rw [hv] at hw
  rwa [Option.some.inj hw]

/-- Data on top of a vessel makes sense iff it does by itself, as long as type, size and unit come
together: what is left of the vessel then has no say in whether they fit. -/
theorem complete_overlay_iff {base : Bag} (hbase : Vessel.Complete base)
    (htogether : ∀ a ∈ typeAndSize, a ∈ data → ∀ b ∈ typeAndSize, b ∈ data) :
    Vessel.Complete (Bag.overlay base data) ↔
      Fitting data ∧ ("ship_type" ∈ data → UnitFits data) := by
  have htop : ∀ name ∈ data, (Bag.overlay base data)[name]? = data[name]? := by
    intro name hname
    obtain ⟨v, hv⟩ := Bag.mem_iff.1 hname
    rw [Bag.getElem?_overlay, hv, Option.some_or]
  have hbelow : ∀ name ∉ data, (Bag.overlay base data)[name]? = base[name]? := by
    intro name hname
    rw [Bag.getElem?_overlay, Bag.getElem?_eq_none_iff.2 hname, Option.none_or]
  constructor
  · intro h
    refine ⟨?_, ?_⟩
    · intro name v hv
      exact fitting_of_complete h name v (Bag.within_overlay base data name v hv)
    intro htype
    have hunit := htogether "ship_type" (by decide) htype "size_unit" (by decide)
    exact (Vessel.unitFits_congr (htop _ htype) (htop _ hunit)).1 h.unit
  · rintro ⟨hfits, hunit⟩
    have hfitting : Fitting (Bag.overlay base data) := by
      intro name v hv
      rw [Bag.getElem?_overlay, Option.or_eq_some_iff] at hv
      rcases hv with hv | ⟨-, hv⟩
      · exact hfits name v hv
      · exact fitting_of_complete hbase name v hv
    refine ⟨hfitting.attributes, ?_, ?_⟩
    · intro name hname
      obtain ⟨v, hv, -⟩ := hbase.has name hname
      cases hdata : data[name]? with
      | some w =>
        have hw := Bag.within_overlay base data name w hdata
        exact ⟨w, hw, hfitting name w hw⟩
      | none =>
        have hw : (Bag.overlay base data)[name]? = some v := by
          rw [Bag.getElem?_overlay, hdata, hv, Option.none_or]
        exact ⟨v, hw, hfitting name v hw⟩
    · by_cases htype : "ship_type" ∈ data
      · have hsize := htogether "ship_type" (by decide) htype "size_unit" (by decide)
        exact (Vessel.unitFits_congr (htop _ htype) (htop _ hsize)).2 (hunit htype)
      · have hsize : "size_unit" ∉ data := fun h =>
          htype (htogether "size_unit" (by decide) h "ship_type" (by decide))
        exact (Vessel.unitFits_congr (hbelow _ htype) (hbelow _ hsize)).2 hbase.unit

theorem together_iff :
    (typeAndSize.any (fun name => data.contains name) &&
        !typeAndSize.all (fun name => data.contains name)) = false ↔
      ∀ a ∈ typeAndSize, a ∈ data → ∀ b ∈ typeAndSize, b ∈ data := by
  rw [Bool.and_eq_false_imp, List.any_eq_true]
  simp only [Std.ExtTreeMap.contains_iff_mem, Bool.not_eq_false', List.all_eq_true]
  constructor
  · intro h a ha hmem
    exact h ⟨a, ha, hmem⟩
  · rintro h ⟨a, ha, hmem⟩
    exact h a ha hmem

/-- The check on the data of a rule passes iff the data is sound. -/
theorem checkData?_eq_ok_iff : checkData? data = .ok () ↔ SoundData data := by
  rw [checkData?]
  constructor
  · intro h
    cases hbag : Vessel.ofBag? (Bag.overlay neutral data) with
    | error e => rw [hbag] at h; cases h
    | ok v =>
      rw [hbag] at h
      cases hflag : (typeAndSize.any (fun name => data.contains name) &&
        !typeAndSize.all (fun name => data.contains name)) with
      | true => rw [hflag] at h; cases h
      | false =>
        have htogether := together_iff.1 hflag
        have hcomplete := Vessel.exists_ofBag?_iff.1 ⟨v, hbag⟩
        obtain ⟨hfits, hunit⟩ := (complete_overlay_iff complete_neutral htogether).1 hcomplete
        exact ⟨hfits, htogether, hunit⟩
  · intro h
    obtain ⟨v, hv⟩ := Vessel.exists_ofBag?_iff.2
      ((complete_overlay_iff complete_neutral h.together).2 ⟨h.fits, h.unit⟩)
    rw [hv, together_iff.2 h.together]
    rfl

/-! ## Lists of rules -/

/-- Rules whose data is sound, and that leave nothing open: every attribute has an unconditional
rule, and every ship type meets a rule with a size that asks for nothing else. -/
structure SoundGuesses (guesses : List (Rule Bag)) : Prop where
  data : ∀ r ∈ guesses, SoundData r.data
  defaults : ∀ name ∈ Vessel.attributes, ∃ r ∈ guesses, r.isUnconditional = true ∧ name ∈ r.data
  sizes : ∀ t : ShipType, ∃ r ∈ guesses, givesSize t r = true

theorem missingDefaults_eq_nil_iff :
    missingDefaults guesses = [] ↔
      ∀ name ∈ Vessel.attributes, ∃ r ∈ guesses, r.isUnconditional = true ∧ name ∈ r.data := by
  simp only [missingDefaults, List.filter_eq_nil_iff, Bool.not_eq_true', Bool.not_eq_false,
    List.any_eq_true, Bool.and_eq_true, Std.ExtTreeMap.contains_iff_mem]

theorem missingSizes_eq_nil_iff :
    missingSizes guesses = [] ↔ ∀ t : ShipType, ∃ r ∈ guesses, givesSize t r = true := by
  simp only [missingSizes, List.filter_eq_nil_iff, Bool.not_eq_true', Bool.not_eq_false,
    List.any_eq_true]
  exact ⟨fun h t => h t (Vocabulary.mem_all t), fun h t _ => h t⟩

theorem checkGuesses?_eq_ok_iff : checkGuesses? guesses = .ok () ↔ SoundGuesses guesses := by
  rw [checkGuesses?, Outcome.bind_eq_ok]
  constructor
  · rintro ⟨⟨⟩, hdata, h⟩
    cases hdefaults : missingDefaults guesses with
    | cons name names => rw [hdefaults] at h; cases h
    | nil =>
      cases hsizes : missingSizes guesses with
      | cons t ts => rw [hdefaults, hsizes] at h; cases h
      | nil =>
        exact ⟨fun r hr => checkData?_eq_ok_iff.1 (Outcome.forM_eq_ok_iff.1 hdata r hr),
          missingDefaults_eq_nil_iff.1 hdefaults, missingSizes_eq_nil_iff.1 hsizes⟩
  · intro h
    refine ⟨(), Outcome.forM_eq_ok_iff.2 fun r hr => checkData?_eq_ok_iff.2 (h.data r hr), ?_⟩
    rw [missingDefaults_eq_nil_iff.2 h.defaults, missingSizes_eq_nil_iff.2 h.sizes]
    rfl

/-! ## Rules that were read -/

/-- Rules that have passed all checks. -/
structure Sound (g : GuessRules) : Prop where
  guesses : SoundGuesses g.guesses
  buildTime : ∃ b ∈ g.buildTimes, b.isUnconditional = true

/-- Rules are read one by one, and then checked. -/
theorem readings_of_ofRules? {guesses buildTimes : List (Rule Json.Fields)} {g : GuessRules}
    (h : ofRules? guesses buildTimes = .ok g) :
    guesses.mapM (Rule.mapData? bagOfData?) = .ok g.guesses ∧
      buildTimes.mapM (Rule.typed? buildTime?) = .ok g.buildTimes ∧ Sound g := by
  obtain ⟨rules, hguesses, h⟩ := Outcome.bind_eq_ok.1 h
  obtain ⟨⟨⟩, hcheck, h⟩ := Outcome.bind_eq_ok.1 h
  obtain ⟨times, htimes, h⟩ := Outcome.bind_eq_ok.1 h
  cases hany : times.any Rule.isUnconditional with
  | false => rw [hany] at h; cases h
  | true =>
    rw [hany] at h
    cases h
    exact ⟨hguesses, htimes, checkGuesses?_eq_ok_iff.1 hcheck, List.any_eq_true.1 hany⟩

theorem sound_of_ofRules? {guesses buildTimes : List (Rule Json.Fields)} {g : GuessRules}
    (h : ofRules? guesses buildTimes = .ok g) : Sound g :=
  (readings_of_ofRules? h).2.2

theorem rules_of_guesser {guesses buildTimes : List (Rule Json.Fields)} {g : Guesser}
    (h : Guesser.ofRules? guesses buildTimes = .ok g) :
    ofRules? guesses buildTimes = .ok g.toGuessRules := by
  obtain ⟨rules, hrules, h⟩ := Outcome.bind_eq_ok.1 h
  obtain ⟨bag, -, h⟩ := Outcome.bind_eq_ok.1 h
  obtain ⟨v, -, h⟩ := Outcome.bind_eq_ok.1 h
  cases h
  exact hrules

theorem sound_of_guesser {guesses buildTimes : List (Rule Json.Fields)} {g : Guesser}
    (h : Guesser.ofRules? guesses buildTimes = .ok g) : Sound g.toGuessRules :=
  sound_of_ofRules? (rules_of_guesser h)

/-- The rules of a guesser have the criteria of the rules that it was read from. -/
theorem criteria_of_guesser {guesses buildTimes : List (Rule Json.Fields)} {g : Guesser}
    (h : Guesser.ofRules? guesses buildTimes = .ok g) :
    (∀ r ∈ g.guesses, ∃ r' ∈ guesses, r.criteria = r'.criteria) ∧
      ∀ b ∈ g.buildTimes, ∃ b' ∈ buildTimes, b.criteria = b'.criteria := by
  obtain ⟨hguesses, htimes, -⟩ := readings_of_ofRules? (rules_of_guesser h)
  constructor
  · intro r hr
    obtain ⟨r', hr', hread⟩ := (Outcome.mem_of_mapM_eq_ok hguesses).2 r hr
    exact ⟨r', hr', (Rule.mapData?_eq_ok_iff.1 hread).1⟩
  · intro b hb
    obtain ⟨b', hb', hread⟩ := (Outcome.mem_of_mapM_eq_ok htimes).2 b hb
    exact ⟨b', hb', (Rule.typed?_eq_ok_iff.1 hread).1⟩

/-! ## Rules from documents -/

/-- The guesser that two documents of rules give. -/
def readGuesser? (guesses buildTimes : Json) : Except Error Guesser := do
  let guesses ← Rule.listOfJson? .builtIn guesses
  let buildTimes ← Rule.listOfJson? .builtIn buildTimes
  Guesser.ofRules? guesses buildTimes

theorem readGuesser?_eq_ok_iff {guessDoc buildDoc : Json} {g : Guesser} :
    readGuesser? guessDoc buildDoc = .ok g ↔ ∃ guesses buildTimes,
      Rule.listOfJson? .builtIn guessDoc = .ok guesses ∧
      Rule.listOfJson? .builtIn buildDoc = .ok buildTimes ∧
      Guesser.ofRules? guesses buildTimes = .ok g := by
  rw [readGuesser?, Outcome.bind_eq_ok]
  simp only [Outcome.bind_eq_ok]
  constructor
  · rintro ⟨guesses, hguesses, buildTimes, htimes, h⟩
    exact ⟨guesses, buildTimes, hguesses, htimes, h⟩
  · rintro ⟨guesses, buildTimes, hguesses, htimes, h⟩
    exact ⟨guesses, hguesses, buildTimes, htimes, h⟩

/-! ## A small set of rules -/

/-- Two rules: one that gives every attribute to every vessel, and one that gives a size to every
vessel of a known type, which is always the size of a vessel of no particular type. -/
def sampleGuesses : Json := .array [
  .object [
    ("match_criteria", .object []),
    ("max_speed", .number (.integer 12)),
    ("engine_kw", .number (.integer 800)),
    ("engine_rpm", .number (.integer 900)),
    ("engine_category", .text "c1"),
    ("engine_nox_tier", .number (.integer 2)),
    ("ship_type", .text "misc"),
    ("size", .number (.integer 0)),
    ("size_unit", .text "n/a")],
  .object [
    ("match_criteria", .object [("ship_type", .object [("any_of",
      .array ((Vocabulary.all : List ShipType).map fun t => .text (Vocabulary.word t)))])]),
    ("ship_type", .text "misc"),
    ("size", .number (.integer 0)),
    ("size_unit", .text "n/a")]]

/-- Building takes a year. -/
def sampleBuildTimes : Json := .array [
  .object [("match_criteria", .object []), ("build_time_years", .number (.integer 1))]]

/-- The guesser that the two documents give. -/
def sampleGuesser? : Except Error Guesser := do
  let guesses ← Rule.listOfJson? .builtIn sampleGuesses
  let buildTimes ← Rule.listOfJson? .builtIn sampleBuildTimes
  Guesser.ofRules? guesses buildTimes

/-- The small set of rules passes all checks. All of its sizes are for vessels of no particular
type. -/
theorem exists_sampleGuesser : ∃ g, sampleGuesser? = .ok g ∧
    ∀ r ∈ g.guesses, r.data["ship_type"]? = some (.ofTerm ShipType.misc) := by
  have hrun : (sampleGuesser?.map fun g => g.guesses.all fun r =>
      (r.data["ship_type"]?.bind (Value.term? ShipType)) = some .misc).toOption = some true := by
    decide +kernel
  cases h : sampleGuesser? with
  | error e => rw [h] at hrun; cases hrun
  | ok g =>
    rw [h] at hrun
    refine ⟨g, rfl, ?_⟩
    intro r hr
    have hterm := of_decide_eq_true (List.all_eq_true.1 (Option.some.inj hrun) r hr)
    obtain ⟨v, hv, hv'⟩ := Option.bind_eq_some_iff.1 hterm
    rw [hv, Value.term?_eq_some_iff.1 hv']

theorem sampleGuesser?_eq_ok_iff {g : Guesser} :
    sampleGuesser? = .ok g ↔ ∃ guesses buildTimes,
      Rule.listOfJson? .builtIn sampleGuesses = .ok guesses ∧
      Rule.listOfJson? .builtIn sampleBuildTimes = .ok buildTimes ∧
      Guesser.ofRules? guesses buildTimes = .ok g :=
  readGuesser?_eq_ok_iff

end GuessRules

end ShipEmissions
