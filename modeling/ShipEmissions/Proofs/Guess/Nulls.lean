import ShipEmissions.Proofs.Guess.Context
import ShipEmissions.Proofs.Registry

/-!
# Nulls that count as nothing

Guessing takes an attribute that is null for one that is missing. Its own questions do so by design.
Criteria do so as well wherever the check of their name refuses null, since then no criterion on the
name compares with null at any depth. The tier is the one attribute of vessels for which a null
makes a difference: it suppresses the second pass.

* `nullable`: the names for which all of this holds.
* `WellRead.blind_of_present`: rules do not see nulls under names whose checks refuse null.
* `outcome_withNulls`: nulls under such names do not change how completing a bag turns out.
-/

namespace ShipEmissions

/-! ## Bags with nulls -/

namespace Bag

/-- A bag with nulls put in under some names. -/
def withNulls (bag : Bag) : List String → Bag
  | [] => bag
  | name :: names => (withNulls bag names).insert name .null

theorem getElem?_withNulls (bag : Bag) (nulls : List String) (name : String) :
    (bag.withNulls nulls)[name]? = if name ∈ nulls then some .null else bag[name]? := by
  induction nulls with
  | nil => rfl
  | cons null nulls ih =>
    rw [withNulls, getElem?_insert, ih]
    by_cases h : null = name
    · simp [h]
    · simp [h, Ne.symm h]

/-- Nulls put in where nothing was are not present. -/
theorem present?_withNulls {bag : Bag} {nulls : List String} (hnulls : ∀ name ∈ nulls, name ∉ bag)
    (name : String) : (bag.withNulls nulls).present? name = bag.present? name := by
  rw [present?, present?, getElem?_withNulls]
  split
  · next hname =>
    rw [getElem?_eq_none_iff.2 (hnulls name hname)]
    rfl
  · rfl

end Bag

/-! ## Checks that refuse null -/

/-- A name with a check that refuses null. -/
def Names.RefusesNull (names : Names) (name : String) : Prop :=
  ∃ check : Check, names.checks[name]? = some (some check) ∧ check .null = false

theorem Names.refusesNull_iff {names : Names} {name : String} :
    names.RefusesNull name ↔
      (names.checks[name]?.any fun check => check.any fun check => !check .null) = true := by
  rw [RefusesNull, Option.any_eq_true]
  simp only [Option.any_eq_true, Bool.not_eq_true']
  constructor
  · rintro ⟨check, hcheck, hnull⟩
    exact ⟨some check, hcheck, check, rfl, hnull⟩
  · rintro ⟨_, hcheck, check, rfl, hnull⟩
    exact ⟨check, hcheck, hnull⟩

instance (names : Names) (name : String) : Decidable (names.RefusesNull name) :=
  decidable_of_iff _ Names.refusesNull_iff.symm

theorem Names.Within.refusesNull {small large : Names} {name : String} (h : small.Within large)
    (hname : small.RefusesNull name) : large.RefusesNull name := by
  obtain ⟨check, hcheck, hnull⟩ := hname
  exact ⟨check, h name _ hcheck, hnull⟩

/-- Rules that were read see no nulls under names whose checks refuse null. -/
theorem Rule.WellRead.blind_of_present {δ : Type} {rules : List (Rule δ)} {names : Names}
    {a b : Bag} (h : WellRead names rules)
    (hab : ∀ name : String, a[name]? = b[name]? ∨
      names.RefusesNull name ∧ a.present? name = b.present? name) : Blind rules a b := by
  intro r hr c hc
  obtain ⟨hon, haccepted⟩ := h r hr c hc
  refine ⟨hon, ?_⟩
  rcases hab c.name with heq | ⟨⟨check, hcheck, hnull⟩, hpresent⟩
  · rw [heq]
    exact hon.blind_self _
  · exact hon.blind_of_present haccepted hcheck hnull hpresent

namespace GuessRules

/-- The names under which a null counts as nothing: they are built in with checks that refuse
null. -/
def nullable : List String := ["max_speed", "engine_kw", "engine_rpm", "engine_category",
  "ship_type", "size", "size_unit", "length", "width"]

theorem refusesNull_of_nullable : ∀ name ∈ nullable, Names.builtIn.RefusesNull name := by
  decide +kernel

variable {names names' : Names} {guessDoc buildDoc : Json}
  {guesses buildTimes : List (Rule Json.Fields)}

/-- Whatever has been registered on top of the built-in names, nulls under nullable names that a bag
does not have make no difference to how completing it turns out. -/
theorem outcome_withNulls {guesser : Guesser} (hnames : Names.builtIn.Within names)
    (hnames' : Names.builtIn.Within names')
    (hguesses : Rule.listOfJson? names guessDoc = .ok guesses)
    (hbuild : Rule.listOfJson? names' buildDoc = .ok buildTimes)
    (hg : Guesser.ofRules? guesses buildTimes = .ok guesser) {given : Bag} {nulls : List String}
    (hnulls : ∀ name ∈ nulls, name ∈ nullable ∧ name ∉ given) :
    guesser.outcome (given.withNulls nulls) = guesser.outcome given := by
  obtain ⟨hreadGuesses, hreadBuildTimes⟩ := wellRead_of_guesser hguesses hbuild hg
  have hpresent := Bag.present?_withNulls fun name hname => (hnulls name hname).2
  have hentry : ∀ name ∉ nulls, (given.withNulls nulls)[name]? = given[name]? := by
    intro name hname
    rw [Bag.getElem?_withNulls, if_neg hname]
  have hseen : ∀ {known : Names}, Names.builtIn.Within known → ∀ name : String,
      (given.withNulls nulls)[name]? = given[name]? ∨ known.RefusesNull name ∧
        (given.withNulls nulls).present? name = given.present? name := by
    intro known hknown name
    by_cases hname : name ∈ nulls
    · have hrefuses := refusesNull_of_nullable name (hnulls name hname).1
      exact .inr ⟨hknown.refusesNull hrefuses, hpresent name⟩
    · exact .inl (hentry name hname)
  apply Unseen.outcome_eq
  refine ⟨fun name _ => hpresent name, hpresent _, hpresent _, ?tier,
    hreadGuesses.blind_of_present (hseen hnames), hreadBuildTimes.blind_of_present (hseen hnames')⟩
  case tier =>
    have htier : "engine_nox_tier" ∉ nulls := fun h => absurd (hnulls _ h).1 (by decide)
    rw [Std.ExtTreeMap.contains_eq_isSome_getElem?, Std.ExtTreeMap.contains_eq_isSome_getElem?,
      hentry _ htier]

/-- A tug of which nothing else is known. -/
def sampleTug : Bag := .ofList [("ship_type", .ofTerm ShipType.tug)]

/-- With the small set of rules, it makes no difference to say so of its size, length and power. -/
theorem outcome_withNulls_tug :
    ∃ (guesses buildTimes : List (Rule Json.Fields)) (guesser : Guesser),
      Names.builtIn.Within .builtIn ∧
      Rule.listOfJson? .builtIn sampleGuesses = .ok guesses ∧
      Rule.listOfJson? .builtIn sampleBuildTimes = .ok buildTimes ∧
      Guesser.ofRules? guesses buildTimes = .ok guesser ∧
      (∀ name ∈ ["size", "length", "engine_kw"], name ∈ nullable ∧ name ∉ sampleTug) ∧
      guesser.outcome (sampleTug.withNulls ["size", "length", "engine_kw"]) =
        guesser.outcome sampleTug := by
  obtain ⟨guesser, hsample, -⟩ := exists_sampleGuesser
  obtain ⟨guesses, buildTimes, hguesses, hbuild, hg⟩ := sampleGuesser?_eq_ok_iff.1 hsample
  have hnulls : ∀ name ∈ ["size", "length", "engine_kw"], name ∈ nullable ∧ name ∉ sampleTug := by
    simp only [sampleTug, Bag.mem_ofList_iff]
    decide
  exact ⟨guesses, buildTimes, guesser, .refl _, hguesses, hbuild, hg, hnulls,
    outcome_withNulls (.refl _) (.refl _) hguesses hbuild hg hnulls⟩

end GuessRules

end ShipEmissions
