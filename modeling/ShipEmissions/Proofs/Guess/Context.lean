import Mathlib.Data.List.Find
import ShipEmissions.Proofs.Criterion
import ShipEmissions.Proofs.Guess.Passes

/-!
# What completing a bag looks at

Completing a bag looks at the attributes of vessels, at the years of building, and at the names that
the rules have criteria on. Two bags that the rules cannot tell apart turn out alike, whatever else
they hold.

* `Rule.Blind`: two bags that no criterion of some rules can tell apart.
* `Rule.Blind.of_entries`: they stay so if they are changed alike.
* `gather_congr`, `improveTier?_congr`: each pass with one bag goes as with the other.
* `Unseen.outcome_eq`: and so does completing them.
* `outcome_eq_of_reads`: names that nothing looks at have no influence.
-/

namespace ShipEmissions

/-! ## Rules that cannot tell two bags apart -/

namespace Rule

variable {δ : Type} {rules : List (Rule δ)} {a b a' b' : Bag} {r : Rule δ} {names : Names}

/-- Every criterion of the rules looks at its name alone, and cannot tell what one bag has there
from what the other has. -/
def Blind (rules : List (Rule δ)) (a b : Bag) : Prop :=
  ∀ r ∈ rules, ∀ c ∈ r.criteria, c.On c.name ∧ c.Blind a[c.name]? b[c.name]?

theorem Blind.matchesBag (h : Blind rules a b) (hr : r ∈ rules) :
    r.matchesBag a = r.matchesBag b := by
  rw [Rule.matchesBag, Rule.matchesBag, Bool.eq_iff_iff, List.all_eq_true, List.all_eq_true]
  refine forall₂_congr fun c hc => ?_
  rw [(h r hr c hc).2 a b rfl rfl]

theorem Blind.firstMatch? (h : Blind rules a b) : firstMatch? rules a = firstMatch? rules b := by
  rw [Rule.firstMatch?, Rule.firstMatch?]
  congr 1
  exact List.find?_congr fun r hr => h.matchesBag hr

/-- Bags that were changed alike, name by name, cannot be told apart any better. -/
theorem Blind.of_entries (h : Blind rules a b)
    (hchanged : ∀ name : String, a'[name]? = b'[name]? ∨
      a'[name]? = a[name]? ∧ b'[name]? = b[name]?) :
    Blind rules a' b' := by
  intro r hr c hc
  obtain ⟨hon, hblind⟩ := h r hr c hc
  refine ⟨hon, ?_⟩
  rcases hchanged c.name with heq | ⟨ha, hb⟩
  · rw [heq]
    exact hon.blind_self _
  · rw [ha, hb]
    exact hblind

theorem Blind.overlay (h : Blind rules a b) (top : Bag) :
    Blind rules (Bag.overlay a top) (Bag.overlay b top) := by
  refine h.of_entries fun name => ?_
  rw [Bag.getElem?_overlay, Bag.getElem?_overlay]
  cases top[name]? with
  | some v => exact .inl rfl
  | none => exact .inr ⟨rfl, rfl⟩

theorem Blind.erase (h : Blind rules a b) (key : String) :
    Blind rules (a.erase key) (b.erase key) := by
  refine h.of_entries fun name => ?_
  rw [Bag.getElem?_erase, Bag.getElem?_erase]
  split
  · exact .inl rfl
  · exact .inr ⟨rfl, rfl⟩

theorem Blind.insert (h : Blind rules a b) (key : String) (v : Value) :
    Blind rules (a.insert key v) (b.insert key v) := by
  refine h.of_entries fun name => ?_
  rw [Bag.getElem?_insert, Bag.getElem?_insert]
  split
  · exact .inl rfl
  · exact .inr ⟨rfl, rfl⟩

/-- Rules that were read cannot tell bags apart that agree wherever the rules look. -/
theorem WellRead.blind (h : WellRead names rules)
    (hab : ∀ r ∈ rules, ∀ c ∈ r.criteria, a[c.name]? = b[c.name]?) : Blind rules a b := by
  intro r hr c hc
  have hon := (h r hr c hc).1
  rw [hab r hr c hc]
  exact ⟨hon, hon.blind_self _⟩

end Rule

namespace GuessRules

variable {g : GuessRules} {rules : List (Rule Bag)} {a b : Bag}

/-! ## Passes over bags that cannot be told apart -/

theorem tryRule_congr (h : Rule.Blind rules a b) {r : Rule Bag} (hr : r ∈ rules) (known : Bag) :
    tryRule a known r = tryRule b known r := by
  rw [tryRule, tryRule, (h.overlay known).matchesBag hr]

theorem gather_congr (h : Rule.Blind rules a b) (known : Bag) :
    gather a rules known = gather b rules known := by
  induction rules generalizing known with
  | nil => rfl
  | cons r rules ih =>
    have hrest : Rule.Blind rules a b := fun s hs => h s (List.mem_cons_of_mem r hs)
    rw [gather, gather, tryRule_congr h List.mem_cons_self known]
    simp only [ih hrest]

/-- Completing a bag cannot tell it from another: the same attributes are present, and so are the
same years of building, a tier is there in both or in neither, and the rules are blind to all other
differences. -/
structure Unseen (g : GuessRules) (a b : Bag) : Prop where
  vessel : ∀ name ∈ Vessel.attributes, a.present? name = b.present? name
  yearOfBuild : a.present? "year_of_build" = b.present? "year_of_build"
  keelLaidYear : a.present? "keel_laid_year" = b.present? "keel_laid_year"
  tier : a.contains "engine_nox_tier" = b.contains "engine_nox_tier"
  guesses : Rule.Blind g.guesses a b
  buildTimes : Rule.Blind g.buildTimes a b

theorem Unseen.givenAttributes_eq (h : g.Unseen a b) : givenAttributes a = givenAttributes b := by
  apply Std.ExtTreeMap.ext_getElem?
  intro name
  rw [getElem?_givenAttributes, getElem?_givenAttributes]
  split
  · next hname => exact h.vessel name (Bag.isAttribute_iff.1 hname)
  · rfl

theorem Unseen.afterFirst_eq (h : g.Unseen a b) : g.afterFirst a = g.afterFirst b := by
  rw [afterFirst, afterFirst, h.givenAttributes_eq, gather_congr h.guesses]

/-- What follows the first pass goes alike, down to the error. -/
theorem Unseen.improveTier?_eq (h : g.Unseen a b) (known : Bag) :
    g.improveTier? known a = g.improveTier? known b := by
  have hyears : Rule.firstMatch? g.buildTimes
        (Bag.overlay (a.erase "keel_laid_year") (known.erase "engine_nox_tier")) =
      Rule.firstMatch? g.buildTimes
        (Bag.overlay (b.erase "keel_laid_year") (known.erase "engine_nox_tier")) :=
    ((h.buildTimes.erase _).overlay _).firstMatch?
  have hgather : ∀ year : Value,
      gather ((a.erase "keel_laid_year").insert "keel_laid_year" year) g.guesses =
        gather ((b.erase "keel_laid_year").insert "keel_laid_year" year) g.guesses :=
    fun year => funext (gather_congr ((h.guesses.erase _).insert _ year))
  simp only [improveTier?, h.yearOfBuild, h.keelLaidYear, hyears, hgather]

/-- How completing a bag turns out: with the attributes, or with what kind of error. -/
def outcome (g : GuessRules) (given : Bag) : Except ErrorKind Bag :=
  (g.complete? given).mapError Error.kind

theorem Unseen.outcome_eq (h : g.Unseen a b) : g.outcome a = g.outcome b := by
  rw [outcome, outcome, complete?_eq, complete?_eq, firstPass?, firstPass?,
    h.vessel "ship_type" (by decide), h.vessel "size" (by decide),
    h.vessel "size_unit" (by decide), h.tier, h.afterFirst_eq]
  split
  · -- both are refused, each with its own bag in the message
    rfl
  · simp only [Except.bind, h.improveTier?_eq]

/-! ## Names that are looked at -/

/-- A name that completing a bag looks at. -/
inductive Reads (g : GuessRules) : String → Prop
  | ofVessel {name : String} (h : name ∈ Vessel.attributes) : Reads g name
  | keelLaidYear : Reads g "keel_laid_year"
  | yearOfBuild : Reads g "year_of_build"
  | guess {r : Rule Bag} {c : Criterion} (hr : r ∈ g.guesses) (hc : c ∈ r.criteria) :
    Reads g c.name
  | buildTime {r : Rule Float} {c : Criterion} (hr : r ∈ g.buildTimes) (hc : c ∈ r.criteria) :
    Reads g c.name

variable {names names' : Names} {guessDoc buildDoc : Json}
  {guesses buildTimes : List (Rule Json.Fields)}

theorem wellRead_of_guesser {guesser : Guesser}
    (hguesses : Rule.listOfJson? names guessDoc = .ok guesses)
    (hbuild : Rule.listOfJson? names' buildDoc = .ok buildTimes)
    (hg : Guesser.ofRules? guesses buildTimes = .ok guesser) :
    Rule.WellRead names guesser.guesses ∧ Rule.WellRead names' guesser.buildTimes := by
  obtain ⟨hguessCriteria, hbuildCriteria⟩ := criteria_of_guesser hg
  exact ⟨(Rule.wellRead_of_listOfJson? hguesses).of_criteria hguessCriteria,
    (Rule.wellRead_of_listOfJson? hbuild).of_criteria hbuildCriteria⟩

/-- With rules that were read from documents, whatever names were registered, bags that agree on
all names that are looked at turn out alike. -/
theorem outcome_eq_of_reads {guesser : Guesser}
    (hguesses : Rule.listOfJson? names guessDoc = .ok guesses)
    (hbuild : Rule.listOfJson? names' buildDoc = .ok buildTimes)
    (hg : Guesser.ofRules? guesses buildTimes = .ok guesser) {a b : Bag}
    (hab : ∀ name, guesser.Reads name → a[name]? = b[name]?) :
    guesser.outcome a = guesser.outcome b := by
  obtain ⟨hreadGuesses, hreadBuildTimes⟩ := wellRead_of_guesser hguesses hbuild hg
  have hpresent : ∀ name, guesser.Reads name → a.present? name = b.present? name := by
    intro name hname
    rw [Bag.present?, Bag.present?, hab name hname]
  apply Unseen.outcome_eq
  refine ⟨fun name hname => hpresent name (.ofVessel hname), hpresent _ .yearOfBuild,
    hpresent _ .keelLaidYear, ?tier, ?guesses, ?buildTimes⟩
  case tier =>
    rw [Std.ExtTreeMap.contains_eq_isSome_getElem?, Std.ExtTreeMap.contains_eq_isSome_getElem?,
      hab _ (.ofVessel (by decide))]
  case guesses => exact hreadGuesses.blind fun r hr c hc => hab _ (.guess hr hc)
  case buildTimes => exact hreadBuildTimes.blind fun r hr c hc => hab _ (.buildTime hr hc)

/-- The small set of rules does not look at colours. -/
theorem outcome_eq_of_reads_colour :
    ∃ (guesses buildTimes : List (Rule Json.Fields)) (guesser : Guesser),
      Rule.listOfJson? .builtIn sampleGuesses = .ok guesses ∧
      Rule.listOfJson? .builtIn sampleBuildTimes = .ok buildTimes ∧
      Guesser.ofRules? guesses buildTimes = .ok guesser ∧
      (∀ name, guesser.Reads name →
        (Bag.ofList [("colour", .text "red")])[name]? = (Bag.ofList [])[name]?) ∧
      guesser.outcome (.ofList [("colour", .text "red")]) = guesser.outcome (.ofList []) := by
  obtain ⟨guesser, hsample, -⟩ := exists_sampleGuesser
  obtain ⟨guesses, buildTimes, hguesses, hbuild, hg⟩ := sampleGuesser?_eq_ok_iff.1 hsample
  obtain ⟨hreadGuesses, hreadBuildTimes⟩ := wellRead_of_guesser hguesses hbuild hg
  have hunregistered : ∀ c : Criterion, c.Accepted .builtIn → c.name ≠ "colour" := by
    intro c hc hname
    have hregistered := hc.1
    rw [hname] at hregistered
    revert hregistered
    decide
  have hunread : ∀ name, guesser.Reads name → name ≠ "colour" := by
    intro name hname
    cases hname with
    | ofVessel h =>
      rintro rfl
      revert h
      decide
    | keelLaidYear => decide
    | yearOfBuild => decide
    | guess hr hc => exact hunregistered _ (hreadGuesses _ hr _ hc).2
    | buildTime hr hc => exact hunregistered _ (hreadBuildTimes _ hr _ hc).2
  have hagree : ∀ name, guesser.Reads name →
      (Bag.ofList [("colour", .text "red")])[name]? = (Bag.ofList [])[name]? := by
    intro name hname
    rw [Bag.getElem?_ofList_singleton, if_neg (hunread name hname).symm]
    rfl
  exact ⟨guesses, buildTimes, guesser, hguesses, hbuild, hg, hagree,
    outcome_eq_of_reads hguesses hbuild hg hagree⟩

end GuessRules

end ShipEmissions
