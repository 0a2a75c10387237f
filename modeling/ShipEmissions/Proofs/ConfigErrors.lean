import ShipEmissions.Config
import ShipEmissions.Proofs.Document
import ShipEmissions.Proofs.Guess.Sizes

/-!
# Errors of configurations

Reading a configuration uses functions that also serve to read vessels and to guess, and that have
errors of other sorts. None of them comes out: bounds of intervals are numbers in every document,
what is wrong with a vessel is wrapped, and the standard vessel can always be guessed.

* `FailsAsConfig`: a computation whose errors are all errors of the configuration.
* `errors_criterion?`, `errors_listOfJson?`: reading rules, for any nesting of criteria.
* `errors_factorRules`, `errors_guesser`: checking rules.
* `kind_of_config_error`: reading whole configurations, and guessing the standard vessel.
-/

namespace ShipEmissions

open Outcome (ErrorsAre)

/-- Every error of a computation says that the configuration is wrong. -/
abbrev FailsAsConfig {α : Type} (x : Except Error α) : Prop :=
  ErrorsAre (fun e => e.kind = .configuration) x

variable {names : Names} {name : String} {doc : Json}

/-! ## Criteria -/

theorem errors_accept? (names : Names) (c : Criterion) :
    FailsAsConfig (Criterion.accept? names c) := by
  rw [Criterion.accept?]
  split
  · exact .error rfl
  · exact .ok _
  · split
    · exact .ok _
    · exact .error rfl

theorem errors_anyOf? (names : Names) (name : String) (cs : List Criterion) :
    FailsAsConfig (Criterion.anyOf? names name cs) := by
  rw [Criterion.anyOf?]
  split
  · exact errors_accept? names _
  · exact .error rfl

/-- Bounds that are equal to themselves are numbers. -/
theorem errors_within? {lower upper : Float} (hlower : (lower == lower) = true)
    (hupper : (upper == upper) = true) :
    FailsAsConfig (Criterion.within? names name lower upper) := by
  have hboth : (lower == lower && upper == upper) = true := by rw [hlower, hupper]; rfl
  rw [Criterion.within?, Interval.of?, if_pos hboth]
  exact errors_accept? names _

namespace Rule

theorem errors_scalar (hdoc : ∀ fields, doc ≠ .object fields) :
    FailsAsConfig (criterion? names name doc) := by
  rw [criterion?]
  · split
    · exact errors_accept? names _
    · exact .error rfl
  · exact hdoc

mutual

/-- A criterion that cannot be read is wrong in the configuration, however deep the fault is. -/
theorem errors_criterion? :
    ∀ doc : Json, doc.isFinite = true → FailsAsConfig (criterion? names name doc)
  | .object fields, hdoc => by
    have hfields : Json.isFiniteFields fields = true := hdoc
    rw [criterion?]
    split
    · next ge lt hge hlt =>
      split
      · next lower upper hlower hupper =>
        exact errors_within?
          (Json.beq_self_of_number? (Json.isFinite_of_lookup hfields hge) hlower)
          (Json.beq_self_of_number? (Json.isFinite_of_lookup hfields hlt) hupper)
      · exact .error rfl
    · split
      · next criteria hcriteria =>
        exact (errors_alternatives? fields hfields criteria hcriteria).bind
          fun cs _ => errors_anyOf? names name cs
      · exact .error rfl
  | .null, _ => errors_scalar (by simp)
  | .boolean _, _ => errors_scalar (by simp)
  | .number _, _ => errors_scalar (by simp)
  | .text _, _ => errors_scalar (by simp)
  | .array _, _ => errors_scalar (by simp)

theorem errors_alternatives? : ∀ fields : Json.Fields, Json.isFiniteFields fields = true →
    ∀ r, alternatives? names name fields = some r → FailsAsConfig r
  | [], _, r, hr => by rw [alternatives?] at hr; cases hr
  | (key, value) :: rest, hfields, r, hr => by
    rw [Json.isFiniteFields, Bool.and_eq_true] at hfields
    have hrest := errors_alternatives? rest hfields.2
    cases value with
    | array items =>
      rw [alternatives?] at hr
      split at hr
      · rw [← Option.some.inj hr]
        exact errors_criteria? items hfields.1
      · exact hrest r hr
    | _ =>
      rw [alternatives?] at hr
      · split at hr
        · cases hr
        · exact hrest r hr
      · simp

theorem errors_criteria? : ∀ docs : List Json, Json.isFiniteItems docs = true →
    FailsAsConfig (criteria? names name docs)
  | [], _ => by rw [criteria?]; exact .ok _
  | doc :: docs, hdocs => by
    rw [Json.isFiniteItems, Bool.and_eq_true] at hdocs
    rw [criteria?]
    exact (errors_criterion? doc hdocs.1).bind fun c _ =>
      (errors_criteria? docs hdocs.2).map

end

/-! ## Rules -/

theorem errors_ofJson? (hdoc : doc.isFinite = true) : FailsAsConfig (ofJson? names doc) := by
  rw [ofJson?]
  split
  · exact .error rfl
  · next fields hfields =>
    rw [Json.fields?_eq_some_iff] at hfields
    subst hfields
    split
    · exact .error rfl
    · next specs hspecs =>
      obtain ⟨criteria, hlookup, hcriteria⟩ := Option.bind_eq_some_iff.1 hspecs
      have hfinite := Json.isFinite_of_lookup hdoc hlookup
      rw [Json.fields?_eq_some_iff.1 hcriteria] at hfinite
      refine ErrorsAre.map (ErrorsAre.mapM ?_)
      intro field hfield
      exact errors_criterion? _ (Json.isFiniteFields_iff.1 hfinite field hfield)

theorem errors_listOfJson? (hdoc : doc.isFinite = true) :
    FailsAsConfig (listOfJson? names doc) := by
  rw [listOfJson?]
  split
  · exact .error rfl
  · next docs hdocs =>
    rw [Json.items?_eq_some_iff.1 hdocs] at hdoc
    refine ErrorsAre.mapM ?_
    intro item hitem
    exact errors_ofJson? (Json.isFiniteItems_iff.1 hdoc item hitem)

theorem errors_namedOfJson? (hdoc : doc.isFinite = true) :
    FailsAsConfig (namedOfJson? names doc) := by
  rw [namedOfJson?]
  split
  · exact .error rfl
  · next fields hfields =>
    rw [Json.fields?_eq_some_iff.1 hfields] at hdoc
    refine ErrorsAre.mapM ?_
    intro field hfield
    exact (errors_listOfJson? (Json.isFiniteFields_iff.1 hdoc field hfield)).map

theorem errors_typed? {δ : Type} (read : Json.Fields → Option δ) (r : Rule Json.Fields) :
    FailsAsConfig (typed? read r) := by
  refine ErrorsAre.map ?_
  dsimp only
  split
  · exact .ok _
  · exact .error rfl

end Rule

/-! ## Checks on rules -/

theorem errors_typedNamed? {δ : Type} (read : Json.Fields → Option δ)
    (named : FactorRules.NamedRules) : FailsAsConfig (FactorRules.typedNamed? read named) := by
  refine ErrorsAre.mapM ?_
  intro entry _
  exact (ErrorsAre.mapM fun r _ => Rule.errors_typed? read r).map

theorem errors_factorRules (baseValues pollutants : FactorRules.NamedRules)
    (powers lowLoad : List (Rule Json.Fields)) :
    FailsAsConfig (FactorRules.ofRules? baseValues pollutants powers lowLoad) := by
  refine (errors_typedNamed? _ _).bind fun baseValues _ => ?_
  refine (errors_typedNamed? _ _).bind fun pollutants _ => ?_
  split
  · exact .error rfl
  · refine ErrorsAre.bind (.mapM fun r _ => Rule.errors_typed? _ r) fun powers _ => ?_
    dsimp only
    split
    · exact .error rfl
    · refine ErrorsAre.bind (.mapM fun r _ => Rule.errors_typed? _ r) fun lowLoad _ => ?_
      split
      · exact .error rfl
      · exact .ok _

namespace GuessRules

theorem errors_bagOfData? (data : Json.Fields) : FailsAsConfig (bagOfData? data) := by
  refine ErrorsAre.map (.mapM fun field _ => ?_)
  rw [Bag.entryOfField?]
  split
  · exact .ok _
  · exact .error rfl

/-- What is wrong with a vessel is wrapped when the data of a rule is checked. -/
theorem errors_checkData? (data : Bag) : FailsAsConfig (checkData? data) := by
  rw [checkData?]
  split
  · exact .error rfl
  · split
    · exact .error rfl
    · exact .ok ()

theorem errors_checkGuesses? (guesses : List (Rule Bag)) :
    FailsAsConfig (checkGuesses? guesses) := by
  refine ErrorsAre.bind (.forM fun r _ => errors_checkData? r.data) fun _ _ => ?_
  dsimp only
  split
  · exact .error rfl
  · split
    · exact .error rfl
    · exact .ok ()

theorem errors_ofRules? (guesses buildTimes : List (Rule Json.Fields)) :
    FailsAsConfig (ofRules? guesses buildTimes) := by
  refine ErrorsAre.bind (.mapM fun r _ => (errors_bagOfData? r.data).map) fun guesses _ => ?_
  refine (errors_checkGuesses? guesses).bind fun _ _ => ?_
  refine ErrorsAre.bind (.mapM fun r _ => Rule.errors_typed? _ r) fun buildTimes _ => ?_
  split
  · exact .ok _
  · exact .error rfl

end GuessRules

/-- Once the rules are accepted, the standard vessel can be guessed. -/
theorem Guesser.exists_ofRules? {guesses buildTimes : List (Rule Json.Fields)} {rules : GuessRules}
    (h : GuessRules.ofRules? guesses buildTimes = .ok rules) :
    ∃ standard, Guesser.ofRules? guesses buildTimes = .ok ⟨rules, standard⟩ := by
  have hsound := GuessRules.sound_of_ofRules? h
  obtain ⟨bag, hbag, hcomplete⟩ := GuessRules.complete_standard hsound
  obtain ⟨v, hv⟩ := Vessel.exists_ofBag?_iff.2 hcomplete
  refine ⟨v, Outcome.bind_eq_ok.2 ⟨rules, h, Outcome.bind_eq_ok.2 ⟨bag, hbag, ?_⟩⟩⟩
  exact Outcome.bind_eq_ok.2 ⟨v, hv, rfl⟩

theorem errors_guesser (guesses buildTimes : List (Rule Json.Fields)) :
    FailsAsConfig (Guesser.ofRules? guesses buildTimes) := by
  cases hrules : GuessRules.ofRules? guesses buildTimes with
  | error e =>
    intro e' he'
    rw [Guesser.ofRules?, hrules] at he'
    cases he'
    exact GuessRules.errors_ofRules? guesses buildTimes e hrules
  | ok rules =>
    obtain ⟨standard, hstandard⟩ := Guesser.exists_ofRules? hrules
    rw [hstandard]
    exact .ok _

/-! ## Whole configurations -/

namespace Config

theorem errors_part? {α : Type} {f : Json → Except Error α} (hdoc : doc.isFinite = true)
    (name : String) (hf : ∀ part : Json, part.isFinite = true → FailsAsConfig (f part)) :
    FailsAsConfig (part? doc name >>= f) := by
  rw [part?]
  cases hfield : doc.field? name with
  | none => exact ErrorsAre.bind (.error rfl) fun part h => (by cases h)
  | some part =>
    obtain ⟨fields, hfields, hlookup⟩ := Option.bind_eq_some_iff.1 hfield
    rw [Json.fields?_eq_some_iff.1 hfields] at hdoc
    exact hf part (Json.isFinite_of_lookup hdoc hlookup)

theorem errors_seaMargin? (doc : Json) : FailsAsConfig (seaMargin? doc) := by
  rw [seaMargin?]
  split
  · exact .ok _
  · exact .error rfl

theorem errors_ofJson? (hdoc : doc.isFinite = true) : FailsAsConfig (ofJson? names doc) := by
  have hlist : ∀ name, FailsAsConfig (part? doc name >>= Rule.listOfJson? names) := fun name =>
    errors_part? hdoc name fun _ hpart => Rule.errors_listOfJson? hpart
  have hnamed : ∀ name, FailsAsConfig (part? doc name >>= Rule.namedOfJson? names) := fun name =>
    errors_part? hdoc name fun _ hpart => Rule.errors_namedOfJson? hpart
  refine (errors_part? hdoc _ fun part _ => errors_seaMargin? part).bind fun seaMargin _ => ?_
  refine (hnamed _).bind fun baseValues _ => ?_
  refine (hnamed _).bind fun pollutants _ => ?_
  refine (hlist _).bind fun powers _ => ?_
  refine (hlist _).bind fun guesses _ => ?_
  refine (hlist _).bind fun buildTimes _ => ?_
  refine (hlist _).bind fun lowLoad _ => ?_
  refine (errors_factorRules _ _ _ _).bind fun factors _ => ?_
  refine (errors_guesser _ _).bind fun guesser _ => ?_
  exact .ok _

/-- A document is read as a configuration, or refused with an error of the configuration; its
numbers are finite, since no others can be written. Whenever rules for guessing pass their checks,
they give every attribute of the standard vessel, and these make a vessel; so nothing can go wrong
once the rules are read and checked. -/
theorem kind_of_config_error :
    (∀ (names : Names) (doc : Json), doc.isFinite = true →
      ∀ e, Config.ofJson? names doc = .error e → e.kind = .configuration) ∧
    (∀ g : GuessRules, GuessRules.checkGuesses? g.guesses = .ok () →
      g.buildTimes.any Rule.isUnconditional = true →
      ∃ result v, g.complete? ∅ = .ok result ∧ (∀ name ∈ Vessel.attributes, name ∈ result) ∧
        Vessel.ofBag? result = .ok v) ∧
    ∀ (guesses buildTimes : List (Rule Json.Fields)) (rules : GuessRules),
      GuessRules.ofRules? guesses buildTimes = .ok rules →
      ∃ standard, Guesser.ofRules? guesses buildTimes = .ok ⟨rules, standard⟩ := by
  refine ⟨?_, ?_, fun _ _ _ => Guesser.exists_ofRules?⟩
  · intro names doc hdoc
    exact errors_ofJson? hdoc
  · intro g hguesses htimes
    have hg : GuessRules.Sound g :=
      ⟨GuessRules.checkGuesses?_eq_ok_iff.1 hguesses, List.any_eq_true.1 htimes⟩
    obtain ⟨result, hresult, hcomplete⟩ := GuessRules.complete_standard hg
    obtain ⟨v, hv⟩ := Vessel.exists_ofBag?_iff.2 hcomplete
    refine ⟨result, v, hresult, ?_, hv⟩
    intro name hname
    obtain ⟨x, hx, -⟩ := hcomplete.has name hname
    exact Bag.mem_iff.2 ⟨x, hx⟩

/-- A document without parts is refused, and the small set of rules gives a standard vessel. -/
theorem kind_of_config_error_sample :
    (∃ e, Config.ofJson? .builtIn .null = .error e ∧ e.kind = .configuration) ∧
    ∃ g : GuessRules, GuessRules.checkGuesses? g.guesses = .ok () ∧
      g.buildTimes.any Rule.isUnconditional = true ∧
      ∃ result v, g.complete? ∅ = .ok result ∧ (∀ name ∈ Vessel.attributes, name ∈ result) ∧
        Vessel.ofBag? result = .ok v := by
  constructor
  · exact ⟨_, rfl, kind_of_config_error.1 .builtIn .null rfl _ rfl⟩
  · obtain ⟨g, hg, -⟩ := GuessRules.exists_sampleGuesser
    obtain ⟨guesses, buildTimes, -, -, hg⟩ := GuessRules.sampleGuesser?_eq_ok_iff.1 hg
    have hsound := GuessRules.sound_of_guesser hg
    have hguesses := GuessRules.checkGuesses?_eq_ok_iff.2 hsound.guesses
    have htimes := List.any_eq_true.2 hsound.buildTime
    exact ⟨g.toGuessRules, hguesses, htimes, kind_of_config_error.2.1 _ hguesses htimes⟩

end Config

end ShipEmissions
