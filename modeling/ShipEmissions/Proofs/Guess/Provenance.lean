import ShipEmissions.Proofs.Guess.Priority

/-!
# Where sizes come from

A size that was not given comes from a rule about the ship type that is known in the end. The rule's
unit comes along unless a unit was given: a given unit stays, whatever the size was measured in.

* `complete?_cases`: a bag is completed by one run over the rules, or by a second one without the
  tier.
* `HasSource`, `Sourced`, `Sourced.gather`: the rule that a size comes from, and that every run
  keeps track of one.
* `guessed_size_source`: the type, the unit and the size of a completed bag.
* `given_unit_parts_size`: accepted rules that give a size in gross tons to a vessel whose unit is
  given as none.
-/

namespace ShipEmissions

namespace GuessRules

variable {g : GuessRules} {context given known data result : Bag} {rules : List (Rule Bag)}
  {unit : Option Value} {s : Value}

/-! ## One run or two -/

/-- A bag that is completed holds what the first pass has found, or what a run over all rules has
added to it once the tier was taken out. -/
theorem complete?_cases (h : g.complete? given = .ok result) :
    result = g.afterFirst given ∨ ∃ context,
      result = gather context g.guesses ((g.afterFirst given).erase "engine_nox_tier") := by
  rw [complete?_eq] at h
  obtain ⟨known, hfirst, h⟩ := Outcome.bind_eq_ok.1 h
  rw [eq_afterFirst hfirst] at h
  split at h
  · cases h
    exact Or.inl rfl
  rw [improveTier?] at h
  split at h
  · cases h
    exact Or.inl rfl
  · split at h
    · cases h
      exact Or.inl rfl
    · split at h
      · cases h
      · dsimp only at h
        split at h
        · cases h
        · cases h
          exact Or.inr ⟨_, rfl⟩

/-! ## Sources -/

/-- One of the rules gives the size `s`, and it is about the ship type that is known. The unit that
is known is the one that was given, or else that of the rule. -/
def HasSource (rules : List (Rule Bag)) (unit : Option Value) (known : Bag) (s : Value) : Prop :=
  ∃ r ∈ rules, ∃ t, r.data["size"]? = some s ∧ r.data["ship_type"]? = some t ∧
    known["ship_type"]? = some t ∧ known["size_unit"]? = unit.or r.data["size_unit"]?

/-- What is known about a vessel whose size was not given: the unit is the given one until there is
a size, and a size has a source. -/
structure Sourced (rules : List (Rule Bag)) (unit : Option Value) (known : Bag) : Prop where
  noNulls : NoNulls known
  unmeasured : "size" ∉ known → known["size_unit"]? = unit
  source : ∀ s, known["size"]? = some s → HasSource rules unit known s

theorem SoundData.exists_unit (hdata : SoundData data) (hsize : data["size"]? = some s) :
    ∃ u, data["size_unit"]? = some u :=
  Bag.mem_iff.1 (hdata.size_mem_iff.1 (Bag.mem_iff.2 ⟨s, hsize⟩))

theorem HasSource.of_within {small large : Bag} (hrules : ∀ r ∈ rules, SoundData r.data)
    (hwithin : small.Within large) (h : HasSource rules unit small s) :
    HasSource rules unit large s := by
  obtain ⟨r, hr, t, hsize, hdata, htype, hunit⟩ := h
  obtain ⟨u, hu⟩ := (hrules r hr).exists_unit hsize
  have hsome : ∃ w, unit.or r.data["size_unit"]? = some w := by
    rw [hu]
    cases unit with
    | none => exact ⟨u, rfl⟩
    | some w => exact ⟨w, rfl⟩
  obtain ⟨w, hw⟩ := hsome
  rw [hw] at hunit
  refine ⟨r, hr, t, hsize, hdata, hwithin _ _ htype, ?_⟩
  rw [hw]
  exact hwithin _ _ hunit

/-- A contribution either adds a size together with the type and, if none was given, the unit, or it
adds none of the two. -/
theorem Sourced.contribute {r : Rule Bag} (h : Sourced rules unit known)
    (hrules : ∀ r ∈ rules, SoundData r.data) (hr : r ∈ rules)
    (hnext : NoNulls (contribute known r.data)) : Sourced rules unit (contribute known r.data) := by
  have hdata : SoundData r.data := hrules r hr
  have hwithin := within_contribute known r.data
  by_cases hsize : "size" ∈ known
  · refine ⟨hnext, ?_, ?_⟩
    · intro hmissing
      exact absurd (hwithin.mem hsize) hmissing
    · intro s hs
      obtain ⟨w, hw⟩ := Bag.mem_iff.1 hsize
      have hsame : w = s := Option.some.inj ((hwithin _ _ hw).symm.trans hs)
      rw [← hsame]
      exact (h.source w hw).of_within hrules hwithin
  · have hsizeNext : (GuessRules.contribute known r.data)["size"]? =
        if agrees known r.data then r.data["size"]? else none := by
      rw [getElem?_contribute, Bag.getElem?_eq_none_iff.2 hsize, Option.none_or, offer?_size rfl]
    have hunitNext : (GuessRules.contribute known r.data)["size_unit"]? =
        unit.or (if agrees known r.data then r.data["size_unit"]? else none) := by
      rw [getElem?_contribute, h.unmeasured hsize, offer?_size rfl]
    refine ⟨hnext, ?_, ?_⟩
    · intro hmissing
      rw [hunitNext]
      rw [← Bag.getElem?_eq_none_iff, hsizeNext] at hmissing
      split at hmissing
      · next hagrees =>
        have hnone : r.data["size_unit"]? = none := by
          rw [Bag.getElem?_eq_none_iff, ← hdata.size_mem_iff, ← Bag.getElem?_eq_none_iff]
          exact hmissing
        rw [if_pos hagrees, hnone, Option.or_none]
      · next hagrees => rw [if_neg hagrees, Option.or_none]
    · intro s hs
      rw [hsizeNext] at hs
      split at hs
      · next hagrees =>
        obtain ⟨t, htype, hheld⟩ := (agrees_iff_held h.noNulls hdata.fits).1 hagrees
        refine ⟨r, hr, t, hs, htype, ?_, ?_⟩
        · rw [getElem?_contribute, offer?_of_not_isSizeName rfl, ← Bag.getElem?_overlay]
          exact hheld
        · rw [hunitNext, if_pos hagrees]
      · cases hs

theorem Sourced.gather (h : Sourced rules unit known) (hrules : ∀ r ∈ rules, SoundData r.data) :
    Sourced rules unit (gather context rules known) := by
  apply gather_induction (P := Sourced rules unit) h
  intro now r hr hnow
  have hnext : NoNulls (tryRule context now r) := hnow.noNulls.tryRule (hrules r hr).fits.noNulls
  cases hmatch : r.matchesBag (Bag.overlay context now) with
  | false =>
    rw [tryRule_of_not_matches hmatch]
    exact hnow
  | true =>
    rw [tryRule_of_matches hmatch] at hnext ⊢
    exact hnow.contribute hrules hr hnext

/-- The tier has no say in where the size comes from. -/
theorem Sourced.eraseTier (h : Sourced rules unit known) :
    Sourced rules unit (known.erase "engine_nox_tier") := by
  have hget : ∀ name, name ≠ "engine_nox_tier" →
      (known.erase "engine_nox_tier")[name]? = known[name]? := fun _ =>
    Bag.getElem?_erase_of_ne known
  refine ⟨?_, ?_, ?_⟩
  · intro name v hv
    exact h.noNulls name v (Bag.within_erase known _ name v hv)
  · intro hsize
    rw [hget _ (by decide)]
    refine h.unmeasured fun hmem => hsize ?_
    exact Bag.mem_erase_iff.2 ⟨by decide, hmem⟩
  · intro s hs
    rw [hget _ (by decide)] at hs
    obtain ⟨r, hr, t, hsize, hdata, htype, hunit⟩ := h.source s hs
    refine ⟨r, hr, t, hsize, hdata, ?_, ?_⟩
    · rw [hget _ (by decide), htype]
    · rw [hget _ (by decide), hunit]

theorem sourced_givenAttributes (hsize : given.present? "size" = none) :
    Sourced rules (given.present? "size_unit") (givenAttributes given) := by
  have hnone : (givenAttributes given)["size"]? = none := by
    rw [getElem?_givenAttributes, hsize, ite_self]
  refine ⟨noNulls_givenAttributes given, ?_, ?_⟩
  · intro _
    rw [getElem?_givenAttributes, if_pos (by decide)]
  · intro s hs
    rw [hnone] at hs
    cases hs

theorem Sound.sourced_complete? (hg : Sound g) (hsize : given.present? "size" = none)
    (h : g.complete? given = .ok result) :
    Sourced g.guesses (given.present? "size_unit") result := by
  have hfirst : Sourced g.guesses (given.present? "size_unit") (g.afterFirst given) :=
    (sourced_givenAttributes hsize).gather hg.guesses.data
  rcases complete?_cases h with rfl | ⟨context, rfl⟩
  · exact hfirst
  · exact hfirst.eraseTier.gather hg.guesses.data

/-! ## Completed bags -/

/-- If a completed bag has a size that was not given, then a rule about its ship type gives that
size. A unit that was given stays, otherwise the rule's unit comes with the size. So the rule gives
the unit of the completed bag iff no unit was given or the rule's was. -/
theorem guessed_size_source {guesses buildTimes : List (Rule Json.Fields)} {g : Guesser}
    (hg : Guesser.ofRules? guesses buildTimes = .ok g) {given result : Bag} {s : Value}
    (hresult : g.complete? given = .ok result) (hsize : given.present? "size" = none)
    (hs : result["size"]? = some s) :
    ∃ r ∈ g.guesses, ∃ t, r.data["size"]? = some s ∧ r.data["ship_type"]? = some t ∧
      result["ship_type"]? = some t ∧
      result["size_unit"]? = (given.present? "size_unit").or r.data["size_unit"]? ∧
      (r.data["size_unit"]? = result["size_unit"]? ↔
        given.present? "size_unit" = none ∨ given.present? "size_unit" = r.data["size_unit"]?) := by
  obtain ⟨r, hr, t, hrule, hdata, htype, hunit⟩ :=
    ((sound_of_guesser hg).sourced_complete? hsize hresult).source s hs
  refine ⟨r, hr, t, hrule, hdata, htype, hunit, ?_⟩
  rw [hunit]
  cases given.present? "size_unit" with
  | none => simp
  | some u =>
    rw [Option.some_or, or_iff_right (Option.some_ne_none u)]
    exact eq_comm

/-- With the small set of rules, everything that is guessed when nothing is given comes from one
rule. -/
theorem guessed_size_source_standard : ∃ (guesses buildTimes : List (Rule Json.Fields))
    (g : Guesser) (result : Bag) (s : Value), Guesser.ofRules? guesses buildTimes = .ok g ∧
      g.complete? ∅ = .ok result ∧ (∅ : Bag).present? "size" = none ∧
      result["size"]? = some s ∧
      ∃ r ∈ g.guesses, ∃ t, r.data["size"]? = some s ∧ r.data["ship_type"]? = some t ∧
        result["ship_type"]? = some t ∧ r.data["size_unit"]? = result["size_unit"]? := by
  obtain ⟨g, hg, -⟩ := exists_sampleGuesser
  obtain ⟨guesses, buildTimes, -, -, hg⟩ := sampleGuesser?_eq_ok_iff.1 hg
  obtain ⟨result, hresult, hcomplete⟩ := complete_standard (sound_of_guesser hg)
  obtain ⟨s, hs, -⟩ := hcomplete.has "size" (by decide)
  obtain ⟨r, hr, t, hrule, hdata, htype, -, hunit⟩ := guessed_size_source hg hresult rfl hs
  exact ⟨guesses, buildTimes, g, result, s, hg, hresult, rfl, hs, r, hr, t, hrule, hdata, htype,
    hunit.2 (Or.inl rfl)⟩

/-! ## A unit without a size -/

/-- The data of a rule about ships of a type: a size in some unit. -/
def sizeFields (t : ShipType) (size : Int) (u : SizeUnit) : Json.Fields := [
  ("ship_type", .text (Vocabulary.word t)),
  ("size", .number (.integer size)),
  ("size_unit", .text (Vocabulary.word u))]

/-- A rule for all ships of a type that gives them a size. -/
def sizeRule (t : ShipType) (size : Int) (u : SizeUnit) : Json :=
  .object (("match_criteria", .object [("ship_type", .text (Vocabulary.word t))]) ::
    sizeFields t size u)

/-- Rules that give a size to every ship type, each by a rule about that type, and every attribute
to every vessel. Passenger ferries are the only ships with a choice of units: the first rule gives
them 2000 gross tons, a later one no size in no unit. -/
def ferryGuesses : Json := .array (
  [sizeRule .ferryPassenger 2000 .gt] ++
  ((Vocabulary.all : List ShipType).map fun t =>
    sizeRule t 0 (t.sizeUnits.getLastD .notApplicable)) ++
  [.object ([
    ("match_criteria", .object []),
    ("max_speed", .number (.integer 12)),
    ("engine_kw", .number (.integer 800)),
    ("engine_rpm", .number (.integer 900)),
    ("engine_category", .text "c1"),
    ("engine_nox_tier", .number (.integer 2))] ++ sizeFields .misc 0 .notApplicable)])

/-- A passenger ferry whose size is measured in no unit. -/
def unmeasuredFerry : Bag := .ofList [
  ("ship_type", .ofTerm ShipType.ferryPassenger),
  ("size_unit", .ofTerm SizeUnit.notApplicable)]

theorem getElem?_unmeasuredFerry {name : String} {v : Value}
    (h : (name, v) ∈ [("ship_type", Value.ofTerm ShipType.ferryPassenger),
      ("size_unit", .ofTerm SizeUnit.notApplicable)]) : unmeasuredFerry[name]? = some v :=
  Bag.getElem?_ofList_of_mem (by decide) h

/-- The rules are accepted and give the ferry a size of 2000. Of the rules with this size all have
it in gross tons. -/
theorem exists_unmeasuredFerry : ∃ g result, readGuesser? ferryGuesses sampleBuildTimes = .ok g ∧
    g.complete? unmeasuredFerry = .ok result ∧ result["size"]? = some (.number 2000) ∧
    ∀ r ∈ g.guesses, r.data["size"]? = some (.number 2000) →
      r.data["size_unit"]? = some (.ofTerm SizeUnit.gt) := by
  have hrun : ((readGuesser? ferryGuesses sampleBuildTimes).bind fun g =>
      (g.complete? unmeasuredFerry).map fun result =>
        (result["size"]?.bind Value.number?,
          g.guesses.all fun r => r.data["size"]?.bind Value.number? = some 2000 →
            r.data["size_unit"]?.bind (Value.term? SizeUnit) = some .gt)).toOption =
      some (some 2000, true) := by
    decide +kernel
  cases hg : readGuesser? ferryGuesses sampleBuildTimes with
  | error e => rw [hg] at hrun; cases hrun
  | ok g =>
    rw [hg] at hrun
    cases hresult : g.complete? unmeasuredFerry with
    | error e => simp only [Except.bind, hresult] at hrun; cases hrun
    | ok result =>
      simp only [Except.bind, hresult] at hrun
      obtain ⟨hsize, hall⟩ := Prod.mk.inj (Option.some.inj hrun)
      obtain ⟨s, hs, hnumber⟩ := Option.bind_eq_some_iff.1 hsize
      refine ⟨g, result, rfl, hresult, ?_, ?_⟩
      · rw [hs, Value.number?_eq_some_iff.1 hnumber]
      · intro r hr hrule
        have hgross := of_decide_eq_true (List.all_eq_true.1 hall r hr)
        obtain ⟨u, hu, hgt⟩ := Option.bind_eq_some_iff.1 (hgross (by rw [hrule]; rfl))
        rw [hu, Value.term?_eq_some_iff.1 hgt]

/-- The size of the ferry was not given and comes from a rule, but no rule gives this size in the
unit that the ferry has. -/
theorem given_unit_parts_size : ∃ (guesses buildTimes : List (Rule Json.Fields)) (g : Guesser)
    (result : Bag), Rule.listOfJson? .builtIn ferryGuesses = .ok guesses ∧
      Rule.listOfJson? .builtIn sampleBuildTimes = .ok buildTimes ∧
      Guesser.ofRules? guesses buildTimes = .ok g ∧
      g.complete? unmeasuredFerry = .ok result ∧ unmeasuredFerry.present? "size" = none ∧
      result["size"]? = some (.number 2000) ∧
      result["size_unit"]? = some (.ofTerm SizeUnit.notApplicable) ∧
      ¬∃ r ∈ g.guesses, r.data["ship_type"]? = result["ship_type"]? ∧
        r.data["size"]? = result["size"]? ∧ r.data["size_unit"]? = result["size_unit"]? := by
  obtain ⟨g, result, hg, hresult, hsize, hgross⟩ := exists_unmeasuredFerry
  obtain ⟨guesses, buildTimes, hguesses, htimes, hrules⟩ := readGuesser?_eq_ok_iff.1 hg
  have hunit : unmeasuredFerry.present? "size_unit" = some (.ofTerm SizeUnit.notApplicable) :=
    Bag.present?_of_getElem? (getElem?_unmeasuredFerry (by simp)) rfl
  have hmissing : unmeasuredFerry.present? "size" = none := by
    have hnone : unmeasuredFerry["size"]? = none :=
      Bag.getElem?_eq_none_iff.2 fun hmem => absurd (Bag.mem_ofList_iff.1 hmem) (by decide)
    rw [Bag.present?, hnone]
    rfl
  have hkept : result["size_unit"]? = some (.ofTerm SizeUnit.notApplicable) := by
    obtain ⟨r, -, t, -, -, -, hfrom⟩ :=
      ((sound_of_guesser hrules).sourced_complete? hmissing hresult).source _ hsize
    rw [hfrom, hunit, Option.some_or]
  refine ⟨guesses, buildTimes, g, result, hguesses, htimes, hrules, hresult, hmissing, hsize,
    hkept, ?_⟩
  rintro ⟨r, hr, -, hsame, hsameUnit⟩
  rw [hsize] at hsame
  rw [hgross r hr hsame, hkept] at hsameUnit
  cases Value.ofTerm_injective (Option.some.inj hsameUnit)

end GuessRules

end ShipEmissions
