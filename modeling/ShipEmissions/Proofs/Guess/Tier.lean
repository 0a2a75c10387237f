import ShipEmissions.Proofs.Guess.Sizes

/-!
# The tier of the second pass

The second pass starts with every attribute but the tier. Nothing else can be added, so every rule
is matched against the same bag until the first that gives a tier, and the run stops there.

* `gather_eq_self_of_not_mem`: as long as the missing attribute is not found, nothing changes.
* `exists_isFirst_of_mem_gather`: it is found in the first matching rule that gives it.
* `tier_of_secondPass`: completing a bag for which the first pass finds all attributes.
-/

namespace ShipEmissions

namespace GuessRules

variable {context known : Bag} {rules : List (Rule Bag)} {name : String}

/-! ## Runs with one attribute missing -/

/-- All attributes but one are known. -/
structure AllBut (known : Bag) (name : String) : Prop where
  only : OnlyAttributes known
  missing : name ∉ known
  others : ∀ a ∈ Vessel.attributes, a ≠ name → a ∈ known

theorem AllBut.erase {name : String} (honly : OnlyAttributes known)
    (hfull : ∀ a ∈ Vessel.attributes, a ∈ known) : AllBut (known.erase name) name := by
  refine ⟨?_, ?_, ?_⟩
  · intro a ha
    exact honly a (Bag.mem_erase_iff.1 ha).2
  · intro h
    exact (Bag.mem_erase_iff.1 h).1 rfl
  · intro a ha hne
    exact Bag.mem_erase_iff.2 ⟨hne, hfull a ha⟩

/-- Apart from the missing attribute, a run changes nothing. -/
theorem AllBut.getElem?_gather (h : AllBut known name) (hrules : OnlyGive rules) {a : String}
    (ha : a ≠ name) : (gather context rules known)[a]? = known[a]? := by
  cases hknown : known[a]? with
  | some v => exact within_gather context known rules a v hknown
  | none =>
    rw [Bag.getElem?_eq_none_iff] at hknown ⊢
    intro hmem
    have hattribute := Bag.isAttribute_iff.1 (h.only.gather hrules a hmem)
    exact hknown (h.others a hattribute ha)

theorem gather_eq_self_of_not_mem (h : AllBut known name) (hrules : OnlyGive rules)
    (hname : name ∉ gather context rules known) : gather context rules known = known := by
  apply Std.ExtTreeMap.ext_getElem?
  intro a
  by_cases ha : a = name
  · rw [ha, Bag.getElem?_eq_none_iff.2 hname, Bag.getElem?_eq_none_iff.2 h.missing]
  · exact h.getElem?_gather hrules ha

/-- A missing attribute that is found comes from the first rule that gives it among those that match
what was known at the start. -/
theorem exists_isFirst_of_mem_gather (h : AllBut known name) (hrules : OnlyGive rules)
    (hsize : isSizeName name = false) (hname : name ∈ gather context rules known) :
    ∃ i r, Rule.IsFirst
        (fun r => r.data.contains name && r.matchesBag (Bag.overlay context known)) rules i r ∧
      (gather context rules known)[name]? = r.data[name]? := by
  obtain ⟨v, hv⟩ := Bag.mem_iff.1 hname
  rcases (getElem?_gather_eq_some_iff h.only hrules).1 hv with
    hknown | ⟨before, r, after, rfl, hunknown, hfires, hoffer⟩
  · exact absurd (Bag.mem_iff.2 ⟨v, hknown⟩) h.missing
  have hbefore : OnlyGive before := hrules.left
  have hstart := gather_eq_self_of_not_mem h hbefore hunknown
  rw [fires, hstart] at hfires
  have hdata := mem_of_offer? hoffer
  refine ⟨before.length, r, ⟨?_, ?_, ?_⟩, by rw [hv, hdata]⟩
  · rw [List.getElem?_append_right (Nat.le_refl _), Nat.sub_self]
    rfl
  · rw [Bool.and_eq_true]
    exact ⟨Std.ExtTreeMap.contains_iff_mem.2 (Bag.mem_iff.2 ⟨v, hdata⟩), hfires⟩
  · -- a rule before that matched and gave the attribute would have made it known
    intro j hj s hs
    rw [List.getElem?_append_left hj] at hs
    obtain ⟨front, back, rfl⟩ := List.append_of_mem (List.mem_of_getElem? hs)
    have hfront : OnlyGive front := hbefore.left
    have hearlier : name ∉ gather context front known := fun hmem =>
      hunknown (by rw [gather_append h.only hbefore]; exact (within_gather context _ _).mem hmem)
    rw [Bool.eq_false_iff]
    intro hp
    obtain ⟨hgives, hmatch⟩ := Bool.and_eq_true_iff.1 hp
    obtain ⟨w, hw⟩ := Bag.mem_iff.1 (Std.ExtTreeMap.contains_iff_mem.1 hgives)
    apply hunknown
    apply mem_gather_of_fires h.only hbefore (v := w)
    · rw [fires, gather_eq_self_of_not_mem h hfront hearlier]
      exact hmatch
    · rw [offer?_of_not_isSizeName hsize, hw]

/-! ## The tier -/

/-- Completing a bag without a tier, where the first pass finds all attributes. An engine of the
third category that was built in a known year, without a known year in which the keel was laid, gets
the tier of the first rule that gives one and matches the bag with that year put in and the tier
taken out; for all others the first pass stands. -/
theorem tier_of_secondPass {guesses buildTimes : List (Rule Json.Fields)} {g : Guesser}
    (hg : Guesser.ofRules? guesses buildTimes = .ok g) {given known : Bag}
    (htier : "engine_nox_tier" ∉ given) (hfirst : g.firstPass? given = .ok known)
    (hfull : ∀ name ∈ Vessel.attributes, name ∈ known) :
    (∀ y, known["engine_category"]? = some (.ofTerm EngineCategory.c3) →
      given.present? "keel_laid_year" = none →
      given.present? "year_of_build" = some (.number y) →
      ∃ i b, Rule.IsFirst (fun r => r.matchesBag (buildContext known given)) g.buildTimes i b ∧
      ∃ j r, Rule.IsFirst (fun r => r.data.contains "engine_nox_tier" &&
          r.matchesBag (Bag.overlay (withKeel given (y - b.data))
            (known.erase "engine_nox_tier"))) g.guesses j r ∧
      ∃ result, g.complete? given = .ok result ∧
        (∀ name, name ≠ "engine_nox_tier" → result[name]? = known[name]?) ∧
        result["engine_nox_tier"]? = r.data["engine_nox_tier"]?) ∧
    (known["engine_category"]? ≠ some (.ofTerm EngineCategory.c3) ∨
        given.present? "keel_laid_year" ≠ none ∨ given.present? "year_of_build" = none →
      g.complete? given = .ok known) := by
  have hsound := sound_of_guesser hg
  have honly : OnlyAttributes known := by
    rw [eq_afterFirst hfirst]
    exact (onlyAttributes_givenAttributes given).gather hsound.onlyGive
  have hcomplete : g.complete? given = g.improveTier? known given := by
    rw [complete?_eq, hfirst, Bool.eq_false_iff.2 (mt Std.ExtTreeMap.contains_iff_mem.1 htier)]
    rfl
  have hstart : AllBut (known.erase "engine_nox_tier") "engine_nox_tier" := .erase honly hfull
  constructor
  · intro y hcategory hkeel hyear
    obtain ⟨i, b, hb⟩ := hsound.exists_buildTime (buildContext known given)
    have hnumber : ∀ v, given.present? "year_of_build" = some v → ∃ y, v = .number y := by
      intro v hv
      rw [hyear] at hv
      exact ⟨y, (Option.some.inj hv).symm⟩
    have hresult : g.complete? given = .ok (gather (withKeel given (y - b.data)) g.guesses
        (known.erase "engine_nox_tier")) := by
      rw [hcomplete, improveTier?_eq hsound hnumber, secondPass,
        keelContext?_eq_some hcategory hkeel hyear hb]
    -- some unconditional rule gives a tier, so the second pass finds one
    obtain ⟨r, hr, huncond, hgives⟩ := hsound.guesses.defaults "engine_nox_tier" (by decide)
    have hfound : "engine_nox_tier" ∈ gather (withKeel given (y - b.data)) g.guesses
        (known.erase "engine_nox_tier") :=
      mem_gather_of_isUnconditional hstart.only hsound.onlyGive hr huncond rfl hgives
    obtain ⟨j, s, hs, hvalue⟩ := exists_isFirst_of_mem_gather hstart hsound.onlyGive rfl hfound
    refine ⟨i, b, hb, j, s, hs, _, hresult, ?_, hvalue⟩
    intro name hname
    rw [hstart.getElem?_gather hsound.onlyGive hname, Bag.getElem?_erase_of_ne known hname]
  · intro h
    rw [hcomplete, improveTier?_eq_self h]

/-- A vessel of known size with an engine of the third category, built in 2000. -/
def sampleThirdCategory : Bag := .ofList [
  ("engine_category", .ofTerm EngineCategory.c3),
  ("ship_type", .ofTerm ShipType.misc),
  ("size", .number 0),
  ("size_unit", .ofTerm SizeUnit.notApplicable),
  ("year_of_build", .number 2000)]

/-- With the small set of rules, that vessel gets its tier in the second pass. -/
theorem tier_of_secondPass_thirdCategory :
    ∃ (guesses buildTimes : List (Rule Json.Fields)) (g : Guesser) (known : Bag),
      Guesser.ofRules? guesses buildTimes = .ok g ∧ "engine_nox_tier" ∉ sampleThirdCategory ∧
      g.firstPass? sampleThirdCategory = .ok known ∧
      (∀ name ∈ Vessel.attributes, name ∈ known) ∧
      ∃ i b, Rule.IsFirst (fun r => r.matchesBag (buildContext known sampleThirdCategory))
          g.buildTimes i b ∧
      ∃ j r, Rule.IsFirst (fun r => r.data.contains "engine_nox_tier" &&
          r.matchesBag (Bag.overlay (withKeel sampleThirdCategory (2000 - b.data))
            (known.erase "engine_nox_tier"))) g.guesses j r ∧
      ∃ result, g.complete? sampleThirdCategory = .ok result ∧
        (∀ name, name ≠ "engine_nox_tier" → result[name]? = known[name]?) ∧
        result["engine_nox_tier"]? = r.data["engine_nox_tier"]? := by
  obtain ⟨g, hg, -⟩ := exists_sampleGuesser
  obtain ⟨guesses, buildTimes, -, -, hg⟩ := sampleGuesser?_eq_ok_iff.1 hg
  have hget : ∀ {name : String} {v : Value}, (name, v) ∈ _ → sampleThirdCategory[name]? = some v :=
    fun hmem => Bag.getElem?_ofList_of_mem (by decide) hmem
  have hmissing : ∀ {name : String}, name ∉ _ → sampleThirdCategory[name]? = none := fun hname =>
    Bag.getElem?_eq_none_iff.2 fun hmem => hname (Bag.mem_ofList_iff.1 hmem)
  have hcategory : sampleThirdCategory["engine_category"]? = some (.ofTerm EngineCategory.c3) :=
    hget (by simp)
  have htype : sampleThirdCategory["ship_type"]? = some (.ofTerm ShipType.misc) := hget (by simp)
  have hsize : sampleThirdCategory["size"]? = some (.number 0) := hget (by simp)
  have hunit : sampleThirdCategory["size_unit"]? = some (.ofTerm SizeUnit.notApplicable) :=
    hget (by simp)
  have hyear : sampleThirdCategory["year_of_build"]? = some (.number 2000) := hget (by simp)
  have htier : sampleThirdCategory["engine_nox_tier"]? = none := hmissing (by decide)
  have hkeel : sampleThirdCategory["keel_laid_year"]? = none := hmissing (by decide)
  have hkept : ∀ {name : String} {v : Value}, sampleThirdCategory[name]? = some v →
      Vessel.isAttribute name = true → v.isNull = false →
      (g.afterFirst sampleThirdCategory)[name]? = some v := by
    intro name v hv hname hnull
    apply within_gather
    rw [getElem?_givenAttributes, if_pos hname]
    exact Bag.present?_of_getElem? hv hnull
  have hfirst : g.firstPass? sampleThirdCategory = .ok (g.afterFirst sampleThirdCategory) := by
    apply firstPass?_eq_ok
    intro h
    rw [Bag.present?_of_getElem? htype rfl] at h
    cases h
  have hfull : ∀ name ∈ Vessel.attributes, name ∈ g.afterFirst sampleThirdCategory := by
    intro name hname
    cases hsizeName : isSizeName name with
    | false =>
      exact (sound_of_guesser hg).mem_gather (onlyAttributes_givenAttributes _) hname hsizeName
    | true =>
      rcases isSizeName_iff.1 hsizeName with rfl | rfl
      · exact Bag.mem_iff.2 ⟨_, hkept hsize rfl rfl⟩
      · exact Bag.mem_iff.2 ⟨_, hkept hunit rfl rfl⟩
  exact ⟨guesses, buildTimes, g, _, hg, Bag.getElem?_eq_none_iff.1 htier, hfirst, hfull,
    (tier_of_secondPass hg (Bag.getElem?_eq_none_iff.1 htier) hfirst hfull).1 2000
      (hkept hcategory rfl rfl) (by rw [Bag.present?, hkeel]; rfl)
      (Bag.present?_of_getElem? hyear rfl)⟩

end GuessRules

end ShipEmissions
