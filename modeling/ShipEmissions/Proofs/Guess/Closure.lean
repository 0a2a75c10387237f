import ShipEmissions.Proofs.CommandLine
import ShipEmissions.Proofs.Guess.Priority
import ShipEmissions.Proofs.Guess.Provenance
import ShipEmissions.Proofs.Guess.Tier

/-!
# Guesses that are completed again

A bag with all attributes of vessels has nothing left to guess, so rules add nothing to it and there
is no second pass over it. A guess holds nothing but such attributes, and no nulls. So every bag
that holds a full guess is completed to it.

* `Sound.complete?_of_present`: a bag in which all attributes are present is completed to these.
* `Sound.complete?_of_within`: a bag that holds a full guess is completed to it.
* `complete?_again`: guessing is a closure, in memory and on the command line.
-/

namespace ShipEmissions

namespace GuessRules

variable {g : GuessRules} {context given guess known bag : Bag} {rules : List (Rule Bag)}

/-! ## Bags with nothing left to guess -/

theorem gather_of_full (hfull : ∀ name ∈ Vessel.attributes, name ∈ known)
    (hrules : OnlyGive rules) : gather context rules known = known :=
  gather_induction (P := (· = known)) rfl fun _ r hr hnow => by
    rw [hnow, tryRule_of_full hfull (hrules r hr)]

/-- All attributes of vessels are there and not null. -/
def AllPresent (given : Bag) : Prop :=
  ∀ name ∈ Vessel.attributes, ∃ v, given.present? name = some v

instance (given : Bag) : Decidable (AllPresent given) :=
  decidable_of_iff (∀ name ∈ Vessel.attributes, (given.present? name).isSome = true) <| by
    simp only [AllPresent, Option.isSome_iff_exists]

/-- The attributes of vessels in a bag. -/
def attributesOf (bag : Bag) : Bag := bag.filter fun name _ => Vessel.isAttribute name

theorem givenAttributes_of_allPresent (h : AllPresent given) :
    givenAttributes given = attributesOf given := by
  apply Std.ExtTreeMap.ext_getElem?
  intro name
  rw [getElem?_givenAttributes, attributesOf, Bag.getElem?_filter_name]
  cases hname : Vessel.isAttribute name with
  | false => rfl
  | true =>
    obtain ⟨v, hv⟩ := h name (Bag.isAttribute_iff.1 hname)
    rw [hv, (Bag.present?_eq_some_iff.1 hv).1]

/-- A bag in which all attributes are present is completed to these, whatever else it holds. -/
theorem Sound.complete?_of_present (hg : Sound g) (h : AllPresent given) :
    g.complete? given = .ok (attributesOf given) := by
  have htype : given.present? "ship_type" ≠ none := by
    obtain ⟨v, hv⟩ := h "ship_type" (by decide)
    rw [hv]
    exact Option.some_ne_none v
  have htier : given.contains "engine_nox_tier" = true := by
    obtain ⟨v, hv⟩ := h "engine_nox_tier" (by decide)
    exact Std.ExtTreeMap.contains_iff_mem.2 (Bag.mem_iff.2 ⟨v, (Bag.present?_eq_some_iff.1 hv).1⟩)
  have hfull : ∀ name ∈ Vessel.attributes, name ∈ givenAttributes given := by
    intro name hname
    obtain ⟨v, hv⟩ := h name hname
    refine Bag.mem_iff.2 ⟨v, ?_⟩
    rw [getElem?_givenAttributes, if_pos (Bag.isAttribute_iff.2 hname), hv]
  rw [complete?_eq, firstPass?_eq_ok fun hnone => absurd hnone htype, afterFirst,
    gather_of_full hfull hg.onlyGive, givenAttributes_of_allPresent h]
  exact if_pos htier

/-! ## Guesses -/

/-- A guess holds nothing but attributes of vessels, and no nulls. -/
theorem Sound.complete?_clean (hg : Sound g) (h : g.complete? given = .ok guess) :
    OnlyAttributes guess ∧ NoNulls guess := by
  have hdata : ∀ r ∈ g.guesses, NoNulls r.data := fun r hr => (hg.guesses.data r hr).fits.noNulls
  have honly : OnlyAttributes (g.afterFirst given) :=
    (onlyAttributes_givenAttributes given).gather hg.onlyGive
  have hnulls : NoNulls (g.afterFirst given) := (noNulls_givenAttributes given).gather hdata
  rcases complete?_cases h with rfl | ⟨context, rfl⟩
  · exact ⟨honly, hnulls⟩
  · have hless := Bag.within_erase (g.afterFirst given) "engine_nox_tier"
    refine ⟨OnlyAttributes.gather (fun name hname => honly name (hless.mem hname)) hg.onlyGive, ?_⟩
    exact NoNulls.gather (fun name v hv => hnulls name v (hless name v hv)) hdata

/-- A bag that holds a guess with all attributes is completed to this guess. -/
theorem Sound.complete?_of_within (hg : Sound g) (h : g.complete? given = .ok guess)
    (hfull : ∀ name ∈ Vessel.attributes, name ∈ guess) (hbag : guess.Within bag) :
    g.complete? bag = .ok guess := by
  obtain ⟨honly, hnulls⟩ := hg.complete?_clean h
  have hpresent : AllPresent bag := by
    intro name hname
    obtain ⟨v, hv⟩ := Bag.mem_iff.1 (hfull name hname)
    exact ⟨v, Bag.present?_of_getElem? (hbag name v hv) (hnulls name v hv)⟩
  rw [hg.complete?_of_present hpresent]
  congr 1
  apply Std.ExtTreeMap.ext_getElem?
  intro name
  rw [attributesOf, Bag.getElem?_filter_name]
  by_cases hname : name ∈ guess
  · obtain ⟨v, hv⟩ := Bag.mem_iff.1 hname
    rw [if_pos (honly name hname), hbag name v hv, hv]
  · rw [if_neg fun hattribute => hname (hfull name (Bag.isAttribute_iff.1 hattribute)),
      Bag.getElem?_eq_none_iff.2 hname]

/-! ## On the command line -/

open CommandLine

/-- A bag in which all attributes are present is completed to exactly these. So a guess with all
attributes is completed to itself, alone and on top of the bag that it was guessed from. The command
that wrote the guess writes it again when it is given what it wrote, as long as the numbers are read
as they were written. -/
theorem complete?_again :
    (∀ (guesses buildTimes : List (Rule Json.Fields)) (g : Guesser),
      Guesser.ofRules? guesses buildTimes = .ok g →
      (∀ given : Bag, AllPresent given → g.complete? given = .ok (attributesOf given)) ∧
      ∀ given guess : Bag, g.complete? given = .ok guess →
        (∀ name ∈ Vessel.attributes, name ∈ guess) →
        g.complete? guess = .ok guess ∧ g.complete? (Bag.overlay given guess) = .ok guess) ∧
    ∀ (read : String → Option String) (limits : Option String) (path text : String) (doc : Json),
      Invocation.result? read ⟨limits, .guess path text⟩ = .ok doc →
      ∃ config given guess, config? path (read path) = .ok config ∧ attributes? text = .ok given ∧
        config.guesser.complete? given = .ok guess ∧ doc = Bag.toJson guess ∧
        ((∀ name ∈ Vessel.attributes, name ∈ guess) → NumbersReadBack guess →
          attributes? (doc.indented "") = .ok guess ∧
          Invocation.result? read ⟨limits, .guess path (doc.indented "")⟩ = .ok doc ∧
          (path ≠ "" → Invocation.ofArguments?
            ["guess", "--config=" ++ path, "--attrs", doc.indented ""] =
              some ⟨none, .guess path (doc.indented "")⟩)) := by
  constructor
  · intro guesses buildTimes g hg
    have hsound := sound_of_guesser hg
    refine ⟨fun given hgiven => hsound.complete?_of_present hgiven, ?_⟩
    intro given guess hguess hfull
    exact ⟨hsound.complete?_of_within hguess hfull (.refl guess),
      hsound.complete?_of_within hguess hfull (Bag.within_overlay given guess)⟩
  · intro read limits path text doc hrun
    obtain ⟨hlimits, config, given, guess, hconfig, hgiven, hguess, rfl⟩ :=
      result?_guess_eq_ok_iff.1 hrun
    obtain ⟨guesses, buildTimes, hrules⟩ := rules_of_config? hconfig
    refine ⟨config, given, guess, hconfig, hgiven, hguess, rfl, fun hfull hnumbers => ?_⟩
    have hagain := (sound_of_guesser hrules).complete?_of_within hguess hfull (.refl guess)
    have hattributes := attributes?_toJson hnumbers
    refine ⟨hattributes, ?_, fun hpath => ofArguments?_guess hpath Argument.ofText_block⟩
    exact result?_guess_eq_ok_iff.2
      ⟨hlimits, config, guess, guess, hconfig, hattributes, hagain, rfl⟩

/-- A vessel with an engine of the third category of which all is known, and when it was built. -/
def sampleSurveyed : Bag := .ofList [
  ("max_speed", .number 20),
  ("engine_kw", .number 9000),
  ("engine_rpm", .number 100),
  ("engine_category", .ofTerm EngineCategory.c3),
  ("engine_nox_tier", .ofTier .tier1),
  ("ship_type", .ofTerm ShipType.misc),
  ("size", .number 4000),
  ("size_unit", .ofTerm SizeUnit.gt),
  ("year_of_build", .number 2000)]

/-- One file, with the small configuration. -/
def sampleFiles (path : String) : Option String :=
  if path = "fleet.json" then some Config.sampleDocument.compact else none

/-- The file is accepted, and gives a full guess whose numbers are read as they were written. -/
theorem exists_sampleGuess : ∃ config guess,
    config? "fleet.json" (sampleFiles "fleet.json") = .ok config ∧
    config.guesser.complete? sampleThirdCategory = .ok guess ∧
    (∀ name ∈ Vessel.attributes, name ∈ guess) ∧ NumbersReadBack guess := by
  have hrun : ((Json.read? Config.sampleDocument.compact).bind fun doc =>
      (Config.ofJson? .builtIn doc).toOption.bind fun config =>
        (config.guesser.complete? sampleThirdCategory).toOption.map fun guess =>
          decide ((∀ name ∈ Vessel.attributes, name ∈ guess) ∧ NumbersReadBack guess)) =
      some true := by
    -- the text is evaluated as a list of characters, since texts are slow to take apart
    rw [Json.read?, Json.Written.ofText?]
    simp only [Config.sampleDocument, sampleGuesses, sampleBuildTimes, Json.compact,
      Json.compactItems_eq_map, Json.compactFields, Json.scalarText, Json.Number.text,
      Json.toList_quotedText, String.toList_append, String.toList_intercalate, List.map_cons,
      List.map_nil, List.map_map, Function.comp_def]
    decide +kernel
  obtain ⟨doc, hdoc, hrun⟩ := Option.bind_eq_some_iff.1 hrun
  obtain ⟨config, hconfig, hrun⟩ := Option.bind_eq_some_iff.1 hrun
  obtain ⟨guess, hguess, hchecked⟩ := Option.map_eq_some_iff.1 hrun
  obtain ⟨hfull, hnumbers⟩ := of_decide_eq_true hchecked
  refine ⟨config, guess, failing_eq_ok_iff.2 ?_, Outcome.eq_ok_of_toOption hguess, hfull, hnumbers⟩
  show Config.ofText? .builtIn .json Config.sampleDocument.compact = .ok config
  rw [Config.ofText?, Config.Format.document?, hdoc]
  exact Outcome.eq_ok_of_toOption hconfig

/-- With that file, the vessel built in 2000 is completed to the same guess from the guess, from the
guess on top of what was given, and from what the command has written. -/
theorem complete?_again_thirdCategory : ∃ (config : Config) (guess : Bag),
    (∃ guesses buildTimes, Guesser.ofRules? guesses buildTimes = .ok config.guesser) ∧
    AllPresent sampleSurveyed ∧
    config.guesser.complete? sampleSurveyed = .ok (attributesOf sampleSurveyed) ∧
    config.guesser.complete? sampleThirdCategory = .ok guess ∧
    (∀ name ∈ Vessel.attributes, name ∈ guess) ∧ NumbersReadBack guess ∧
    config.guesser.complete? guess = .ok guess ∧
    config.guesser.complete? (Bag.overlay sampleThirdCategory guess) = .ok guess ∧
    ∃ doc, Invocation.result? sampleFiles
        ⟨none, .guess "fleet.json" ((Bag.toJson sampleThirdCategory).indented "")⟩ = .ok doc ∧
      doc = Bag.toJson guess ∧
      Invocation.result? sampleFiles ⟨none, .guess "fleet.json" (doc.indented "")⟩ = .ok doc ∧
      Invocation.ofArguments? ["guess", "--config=" ++ "fleet.json", "--attrs", doc.indented ""] =
        some ⟨none, .guess "fleet.json" (doc.indented "")⟩ := by
  obtain ⟨config, guess, hconfig, hguess, hfull, hnumbers⟩ := exists_sampleGuess
  obtain ⟨guesses, buildTimes, hrules⟩ := rules_of_config? hconfig
  have hsurveyed : AllPresent sampleSurveyed := by decide +kernel
  have hgiven : attributes? ((Bag.toJson sampleThirdCategory).indented "") =
      .ok sampleThirdCategory := attributes?_toJson (by decide +kernel)
  have hrun : Invocation.result? sampleFiles
      ⟨none, .guess "fleet.json" ((Bag.toJson sampleThirdCategory).indented "")⟩ =
        .ok (Bag.toJson guess) :=
    result?_guess_eq_ok_iff.2 ⟨⟨_, rfl⟩, config, _, guess, hconfig, hgiven, hguess, rfl⟩
  obtain ⟨hpresent, hagain⟩ := complete?_again.1 guesses buildTimes config.guesser hrules
  obtain ⟨halone, hoverlaid⟩ := hagain sampleThirdCategory guess hguess hfull
  obtain ⟨config', given, guess', hconfig', hgiven', hguess', -, hwritten⟩ :=
    complete?_again.2 _ _ _ _ _ hrun
  obtain rfl := Except.ok.inj (hconfig.symm.trans hconfig')
  obtain rfl := Except.ok.inj (hgiven.symm.trans hgiven')
  obtain rfl := Except.ok.inj (hguess.symm.trans hguess')
  obtain ⟨-, hrunAgain, harguments⟩ := hwritten hfull hnumbers
  exact ⟨config, guess, ⟨guesses, buildTimes, hrules⟩, hsurveyed, hpresent _ hsurveyed, hguess,
    hfull, hnumbers, halone, hoverlaid, _, hrun, rfl, hrunAgain, harguments (by decide)⟩

end GuessRules

end ShipEmissions
