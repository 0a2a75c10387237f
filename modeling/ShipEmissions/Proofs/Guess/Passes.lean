import ShipEmissions.Proofs.Guess.Gather

/-!
# The two passes

Completing a bag takes one pass over the rules, and for some engines of the third category a second
one, in which the tier is gathered again.

* `firstPass?`, `complete?_eq`: the first pass on its own, and what follows it.
* `keelContext?`: what rules are matched against in the second pass, if there is one.
* `improveTier?_eq`: with checked rules and a numerical year of build nothing goes wrong after the
  first pass.
-/

namespace ShipEmissions

namespace GuessRules

variable {g : GuessRules} {known given context : Bag} {name : String}

/-! ## The first pass -/

/-- What is known when the rules have been tried on the given bag. -/
def afterFirst (g : GuessRules) (given : Bag) : Bag :=
  gather given g.guesses (givenAttributes given)

/-- What is known after the first pass, which needs a ship type wherever there is a size or a
unit. -/
def firstPass? (g : GuessRules) (given : Bag) : Except Error Bag :=
  if (given.present? "ship_type").isNone &&
      ((given.present? "size").isSome || (given.present? "size_unit").isSome) then
    .error (.sizeWithoutType given)
  else .ok (g.afterFirst given)

theorem complete?_eq (g : GuessRules) (given : Bag) :
    g.complete? given = (g.firstPass? given).bind fun known =>
      if given.contains "engine_nox_tier" then .ok known else g.improveTier? known given := by
  rw [complete?, firstPass?]
  split
  · rfl
  · rfl

theorem firstPass?_eq_ok
    (h : given.present? "ship_type" = none →
      given.present? "size" = none ∧ given.present? "size_unit" = none) :
    g.firstPass? given = .ok (g.afterFirst given) := by
  rw [firstPass?]
  cases htype : given.present? "ship_type" with
  | some t => rfl
  | none =>
    obtain ⟨hsize, hunit⟩ := h htype
    rw [hsize, hunit]
    rfl

theorem eq_afterFirst (h : g.firstPass? given = .ok known) : known = g.afterFirst given := by
  rw [firstPass?] at h
  split at h
  · cases h
  · cases h; rfl

theorem getElem?_givenAttributes (given : Bag) (name : String) :
    (givenAttributes given)[name]? =
      if Vessel.isAttribute name then given.present? name else none := by
  rw [givenAttributes, Std.ExtTreeMap.getElem?_filter', Bag.present?]
  cases hname : Vessel.isAttribute name <;> cases given[name]? <;> simp [Option.filter]

theorem onlyAttributes_givenAttributes (given : Bag) : OnlyAttributes (givenAttributes given) := by
  intro name hname
  obtain ⟨v, hv⟩ := Bag.mem_iff.1 hname
  rw [getElem?_givenAttributes] at hv
  split at hv
  · next h => exact h
  · cases hv

theorem Sound.onlyGive (hg : Sound g) : OnlyGive g.guesses :=
  fun r hr => (hg.guesses.data r hr).fits.attributes

/-! ## The second pass -/

theorem isThirdCategory_iff :
    isThirdCategory known = true ↔
      known["engine_category"]? = some (.ofTerm EngineCategory.c3) := by
  rw [isThirdCategory, beq_iff_eq, Option.bind_eq_some_iff]
  constructor
  · rintro ⟨v, hv, h⟩
    rw [hv, Value.term?_eq_some_iff.1 h]
  · intro h
    exact ⟨_, h, Value.term?_eq_some_iff.2 rfl⟩

/-- A bag with the year in which the keel was laid put in. -/
def withKeel (given : Bag) (year : Float) : Bag :=
  (given.erase "keel_laid_year").insert "keel_laid_year" (.number year)

/-- What rules for the time of building are matched against: neither the year in which the keel was
laid nor the tier that was gathered counts. -/
def buildContext (known given : Bag) : Bag :=
  Bag.overlay (given.erase "keel_laid_year") (known.erase "engine_nox_tier")

/-- What rules are matched against in the second pass besides what is known: the given bag with the
year in which the keel was laid told from the year of build. -/
def keelContext? (g : GuessRules) (known given : Bag) : Option Bag :=
  if isThirdCategory known && (given.present? "keel_laid_year").isNone then
    ((given.present? "year_of_build").bind Value.number?).bind fun year =>
      (Rule.firstMatch? g.buildTimes (buildContext known given)).map fun years =>
        withKeel given (year - years)
  else none

/-- What is known after the second pass, if there is one. -/
def secondPass (g : GuessRules) (known given : Bag) : Bag :=
  match g.keelContext? known given with
  | none => known
  | some context => gather context g.guesses (known.erase "engine_nox_tier")

theorem Sound.exists_buildTime (hg : Sound g) (bag : Bag) :
    ∃ i b, Rule.IsFirst (fun r => r.matchesBag bag) g.buildTimes i b := by
  obtain ⟨b, hb, huncond⟩ := hg.buildTime
  exact Rule.exists_isFirst hb (Rule.matchesBag_of_isUnconditional huncond bag)

/-- With checked rules, nothing goes wrong after the first pass as long as the year of build is a
number wherever it is given. -/
theorem improveTier?_eq (hg : Sound g)
    (hyear : ∀ v, given.present? "year_of_build" = some v → ∃ y, v = .number y) :
    g.improveTier? known given = .ok (g.secondPass known given) := by
  rw [improveTier?, secondPass, keelContext?]
  cases hv : given.present? "year_of_build" with
  | none => simp only [Option.bind_none, ite_self]
  | some v =>
    obtain ⟨y, rfl⟩ := hyear v hv
    cases hcategory : isThirdCategory known with
    | false => rfl
    | true =>
      cases hkeel : given.present? "keel_laid_year" with
      | some keel => rfl
      | none =>
        obtain ⟨i, b, hb⟩ := hg.exists_buildTime (buildContext known given)
        have hfirst := Rule.firstMatch?_eq_some_iff.2 ⟨i, b, hb, rfl⟩
        simp only [buildContext] at hfirst
        simp only [Value.number?, buildContext, hfirst]
        rfl

/-- The context of the second pass, for an engine of the third category built in the year `y`. -/
theorem keelContext?_eq_some {i : ℕ} {b : Rule Float} {y : Float}
    (hcategory : known["engine_category"]? = some (.ofTerm EngineCategory.c3))
    (hkeel : given.present? "keel_laid_year" = none)
    (hyear : given.present? "year_of_build" = some (.number y))
    (hb : Rule.IsFirst (fun r => r.matchesBag (buildContext known given)) g.buildTimes i b) :
    g.keelContext? known given = some (withKeel given (y - b.data)) := by
  rw [keelContext?, isThirdCategory_iff.2 hcategory, hkeel, hyear,
    Rule.firstMatch?_eq_some_iff.2 ⟨i, b, hb, rfl⟩]
  rfl

/-- Where one of these conditions fails, the first pass stands. -/
theorem improveTier?_eq_self
    (h : known["engine_category"]? ≠ some (.ofTerm EngineCategory.c3) ∨
      given.present? "keel_laid_year" ≠ none ∨ given.present? "year_of_build" = none) :
    g.improveTier? known given = .ok known := by
  rw [improveTier?]
  cases hyear : given.present? "year_of_build" with
  | none => rfl
  | some year =>
    rcases h with h | h | h
    · rw [Bool.eq_false_iff.2 fun hcategory => h (isThirdCategory_iff.1 hcategory)]
      rfl
    · obtain ⟨keel, hkeel⟩ := Option.ne_none_iff_exists'.1 h
      rw [hkeel, Option.isSome_some, Bool.or_true]
      rfl
    · rw [hyear] at h
      cases h

end GuessRules

end ShipEmissions
