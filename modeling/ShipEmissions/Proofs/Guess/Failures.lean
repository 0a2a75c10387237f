import ShipEmissions.Proofs.Guess.Passes

/-!
# When completing a bag fails

Checked rules complete almost every bag. Two things are refused: a size or a unit without a ship
type, and a year of build that is no number where the second pass needs one. Both are faults of the
bag; checked rules always have a time of building to offer.

* `SizeWithoutType`, `firstPass?_eq_error_iff`: what the first pass refuses.
* `UnusableYear`, `improveTier?_eq_error_iff`: what is refused after it.
* `Sound.complete?_eq_error_iff`: with which error completing a bag fails.
* `complete?_fails_iff`: when it fails, whatever the rules of a guesser are.
-/

namespace ShipEmissions

namespace GuessRules

variable {g : GuessRules} {known given : Bag} {year : Value} {e : Error}

/-! ## The first pass -/

/-- A size or a unit is present, but no ship type. -/
structure SizeWithoutType (given : Bag) : Prop where
  noType : given.present? "ship_type" = none
  size : given.present? "size" ≠ none ∨ given.present? "size_unit" ≠ none

theorem sizeWithoutType_iff :
    SizeWithoutType given ↔ ((given.present? "ship_type").isNone &&
      ((given.present? "size").isSome || (given.present? "size_unit").isSome)) = true := by
  simp only [Bool.and_eq_true, Bool.or_eq_true, Option.isNone_iff_eq_none,
    Option.isSome_iff_ne_none]
  exact ⟨fun h => ⟨h.noType, h.size⟩, fun h => ⟨h.1, h.2⟩⟩

theorem firstPass?_eq_error_iff :
    g.firstPass? given = .error e ↔ SizeWithoutType given ∧ e = .sizeWithoutType given := by
  rw [firstPass?, sizeWithoutType_iff]
  split
  · next h => simp [h, eq_comm]
  · next h => simp [h]

/-! ## The second pass -/

/-- The second pass is due, but the year of build is no number. -/
structure UnusableYear (known given : Bag) (year : Value) : Prop where
  category : known["engine_category"]? = some (.ofTerm EngineCategory.c3)
  keelLaidYear : given.present? "keel_laid_year" = none
  yearOfBuild : given.present? "year_of_build" = some year
  notNumber : year.number? = none

theorem UnusableYear.improveTier?_eq (h : UnusableYear known given year) :
    g.improveTier? known given = .error (.buildYearNotNumber year) := by
  rw [improveTier?, h.yearOfBuild, h.keelLaidYear, isThirdCategory_iff.2 h.category]
  simp only [h.notNumber]
  rfl

/-- With checked rules, nothing but the year of build can go wrong after the first pass. -/
theorem improveTier?_eq_error_iff (hg : Sound g) :
    g.improveTier? known given = .error e ↔
      ∃ year, UnusableYear known given year ∧ e = .buildYearNotNumber year := by
  constructor
  · intro h
    by_cases hdue : known["engine_category"]? ≠ some (.ofTerm EngineCategory.c3) ∨
        given.present? "keel_laid_year" ≠ none ∨ given.present? "year_of_build" = none
    · rw [improveTier?_eq_self hdue] at h
      cases h
    simp only [not_or, not_not] at hdue
    obtain ⟨hcategory, hkeel, hyear⟩ := hdue
    obtain ⟨year, hyear⟩ := Option.ne_none_iff_exists'.1 hyear
    cases hnumber : year.number? with
    | none =>
      have hunusable : UnusableYear known given year := ⟨hcategory, hkeel, hyear, hnumber⟩
      rw [hunusable.improveTier?_eq] at h
      exact ⟨year, hunusable, (Except.error.inj h).symm⟩
    | some y =>
      have hnumbers : ∀ v, given.present? "year_of_build" = some v → ∃ y, v = .number y := by
        intro v hv
        rw [hyear] at hv
        obtain rfl := Option.some.inj hv
        cases year with
        | number y => exact ⟨y, rfl⟩
        | _ => cases hnumber
      rw [GuessRules.improveTier?_eq hg hnumbers] at h
      cases h
  · rintro ⟨year, hunusable, rfl⟩
    exact hunusable.improveTier?_eq

/-! ## Both passes -/

/-- Completing a bag with checked rules fails with what is wrong with the bag. -/
theorem Sound.complete?_eq_error_iff (hg : Sound g) :
    g.complete? given = .error e ↔
      SizeWithoutType given ∧ e = .sizeWithoutType given ∨
        ¬SizeWithoutType given ∧ "engine_nox_tier" ∉ given ∧
          ∃ year, UnusableYear (g.afterFirst given) given year ∧ e = .buildYearNotNumber year := by
  rw [complete?_eq]
  by_cases hsize : SizeWithoutType given
  · rw [firstPass?_eq_error_iff.2 ⟨hsize, rfl⟩]
    simp [Except.bind, hsize, eq_comm]
  · have hfirst : g.firstPass? given = .ok (g.afterFirst given) := by
      cases hpass : g.firstPass? given with
      | error e' => exact absurd (firstPass?_eq_error_iff.1 hpass).1 hsize
      | ok known => rw [eq_afterFirst hpass]
    rw [hfirst, Except.bind]
    by_cases htier : "engine_nox_tier" ∈ given
    · simp [hsize, htier]
    · simp [hsize, htier, improveTier?_eq_error_iff hg]

/-- For every guesser and every bag, completing the bag fails iff a size or a unit is present
without a ship type, or no tier is there, the engine that is known after the first pass is of the
third category, the year in which the keel was laid is not present and the year of build is present
but no number. It is always the bag that is at fault, never a missing time of building. -/
theorem complete?_fails_iff {guesses buildTimes : List (Rule Json.Fields)} {g : Guesser}
    (hg : Guesser.ofRules? guesses buildTimes = .ok g) (given : Bag) :
    ((∃ e, g.complete? given = .error e) ↔
      SizeWithoutType given ∨
        "engine_nox_tier" ∉ given ∧ ∃ year, UnusableYear (g.afterFirst given) given year) ∧
    ∀ e, g.complete? given = .error e → e.kind = .input ∧ e ≠ .buildTimeMissing := by
  have hsound := sound_of_guesser hg
  constructor
  · constructor
    · rintro ⟨e, he⟩
      rcases hsound.complete?_eq_error_iff.1 he with ⟨hsize, -⟩ | ⟨-, htier, year, hyear, -⟩
      · exact .inl hsize
      · exact .inr ⟨htier, year, hyear⟩
    · intro h
      by_cases hsize : SizeWithoutType given
      · exact ⟨_, hsound.complete?_eq_error_iff.2 (.inl ⟨hsize, rfl⟩)⟩
      · obtain ⟨htier, year, hyear⟩ := h.resolve_left hsize
        exact ⟨_, hsound.complete?_eq_error_iff.2 (.inr ⟨hsize, htier, year, hyear, rfl⟩)⟩
  · intro e he
    rcases hsound.complete?_eq_error_iff.1 he with ⟨-, rfl⟩ | ⟨-, -, year, -, rfl⟩
    · exact ⟨rfl, nofun⟩
    · exact ⟨rfl, nofun⟩

/-- An engine of the third category on a vessel built in a year that is written as a text. -/
def sampleBuiltInText : Bag := .ofList [
  ("engine_category", .ofTerm EngineCategory.c3),
  ("year_of_build", .text "2000")]

/-- The small set of rules fails to complete that bag. -/
theorem complete?_fails_iff_text :
    ∃ (guesses buildTimes : List (Rule Json.Fields)) (g : Guesser),
      Guesser.ofRules? guesses buildTimes = .ok g ∧
      ∃ e, g.complete? sampleBuiltInText = .error e ∧ e.kind = .input := by
  obtain ⟨g, hsample, -⟩ := exists_sampleGuesser
  obtain ⟨guesses, buildTimes, -, -, hg⟩ := sampleGuesser?_eq_ok_iff.1 hsample
  have hcategory : sampleBuiltInText["engine_category"]? = some (.ofTerm EngineCategory.c3) :=
    Bag.getElem?_ofList_of_mem (by decide) (by simp)
  have hyear : sampleBuiltInText["year_of_build"]? = some (.text "2000") :=
    Bag.getElem?_ofList_of_mem (by decide) (by simp)
  have hmissing : ∀ {name : String}, name ∉ _ → name ∉ sampleBuiltInText := fun hname hmem =>
    hname (Bag.mem_ofList_iff.1 hmem)
  have hunusable :
      UnusableYear (g.afterFirst sampleBuiltInText) sampleBuiltInText (.text "2000") := by
    refine ⟨?category, ?keel, Bag.present?_of_getElem? hyear rfl, rfl⟩
    case category =>
      apply within_gather
      rw [getElem?_givenAttributes, if_pos (by decide)]
      exact Bag.present?_of_getElem? hcategory rfl
    case keel =>
      rw [Bag.present?, Bag.getElem?_eq_none_iff.2 (hmissing (by decide))]
      rfl
  obtain ⟨hfails, hkind⟩ := complete?_fails_iff hg sampleBuiltInText
  obtain ⟨e, he⟩ := hfails.2 (.inr ⟨hmissing (by decide), _, hunusable⟩)
  exact ⟨guesses, buildTimes, g, hg, e, he, (hkind e he).1⟩

end GuessRules

end ShipEmissions
