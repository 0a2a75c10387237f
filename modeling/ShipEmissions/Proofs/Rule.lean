import ShipEmissions.Proofs.Bag
import ShipEmissions.Proofs.Outcome
import ShipEmissions.Rule.Reader

/-!
# Matching rules

Criteria only ask for entries to be there, so a bag that grows goes on meeting them. Of a list of
rules the one at the lowest place that matches counts.

* `Criterion.holds_of_within`, `Rule.matchesBag_of_within`: matching is monotone in the bag.
* `Rule.IsFirst`, `firstMatch?_eq_some_iff`: the first of several rules.
* `typed?_eq_ok_iff`: reading the data of a rule leaves its criteria alone.
-/

namespace ShipEmissions

/-! ## Criteria -/

namespace Criterion

mutual

/-- A criterion that a bag meets is met by every bag that keeps its entries. -/
theorem holds_of_within {small large : Bag} (h : small.Within large) :
    ∀ c : Criterion, c.holds small = true → c.holds large = true
  | .equals name value, hc => by
    rw [holds] at hc ⊢
    cases hv : small[name]? with
    | none => rw [hv] at hc; cases hc
    | some v => rw [h name v hv, ← hv]; exact hc
  | .within name range, hc => by
    rw [holds] at hc ⊢
    cases hv : small[name]? with
    | none => rw [hv] at hc; cases hc
    | some v => rw [h name v hv, ← hv]; exact hc
  | .anyOf name criteria, hc => by
    rw [holds] at hc ⊢
    exact holdsAny_of_within h criteria hc

theorem holdsAny_of_within {small large : Bag} (h : small.Within large) :
    ∀ cs : List Criterion, holdsAny small cs = true → holdsAny large cs = true
  | [], hc => by rw [holdsAny] at hc; cases hc
  | c :: cs, hc => by
    rw [holdsAny, Bool.or_eq_true] at hc ⊢
    rcases hc with hc | hc
    · exact Or.inl (holds_of_within h c hc)
    · exact Or.inr (holdsAny_of_within h cs hc)

end

end Criterion

namespace Rule

variable {δ ε : Type}

/-! ## Single rules -/

theorem matchesBag_of_within {small large : Bag} (h : small.Within large) {r : Rule δ}
    (hr : r.matchesBag small = true) : r.matchesBag large = true := by
  rw [matchesBag, List.all_eq_true] at hr ⊢
  exact fun c hc => c.holds_of_within h (hr c hc)

theorem matchesBag_of_isUnconditional {r : Rule δ} (hr : r.isUnconditional = true) (bag : Bag) :
    r.matchesBag bag = true := by
  rw [isUnconditional, List.isEmpty_iff] at hr
  rw [matchesBag, hr, List.all_nil]

theorem mapData?_eq_ok_iff {f : δ → Except Error ε} {r : Rule δ} {r' : Rule ε} :
    r.mapData? f = .ok r' ↔ r'.criteria = r.criteria ∧ f r.data = .ok r'.data := by
  rw [mapData?, Outcome.map_eq_ok]
  constructor
  · rintro ⟨d, hd, rfl⟩; exact ⟨rfl, hd⟩
  · rintro ⟨hc, hd⟩; exact ⟨r'.data, hd, by rw [← hc]⟩

theorem typed?_eq_ok_iff {read : Json.Fields → Option δ} {r : Rule Json.Fields} {r' : Rule δ} :
    typed? read r = .ok r' ↔ r'.criteria = r.criteria ∧ read r.data = some r'.data := by
  rw [typed?, mapData?_eq_ok_iff]
  cases read r.data <;> simp

/-- Matching looks at the criteria alone. -/
theorem matchesBag_congr {r : Rule δ} {r' : Rule ε} (h : r'.criteria = r.criteria) (bag : Bag) :
    r'.matchesBag bag = r.matchesBag bag := by
  rw [matchesBag, matchesBag, h]

/-! ## The first of several rules -/

/-- The rule `r` stands at place `i`, and it is the first of which `p` holds. -/
def IsFirst (p : Rule δ → Bool) (rules : List (Rule δ)) (i : ℕ) (r : Rule δ) : Prop :=
  rules[i]? = some r ∧ p r = true ∧ ∀ j < i, ∀ s, rules[j]? = some s → p s = false

/-- No two rules are first. -/
theorem IsFirst.unique {p : Rule δ → Bool} {rules : List (Rule δ)} {i j : ℕ} {r s : Rule δ}
    (hr : IsFirst p rules i r) (hs : IsFirst p rules j s) : i = j ∧ r = s := by
  rcases Nat.lt_trichotomy i j with hij | rfl | hij
  · have := hs.2.2 i hij r hr.1
    rw [hr.2.1] at this; cases this
  · exact ⟨rfl, Option.some.inj (hr.1.symm.trans hs.1)⟩
  · have := hr.2.2 j hij s hs.1
    rw [hs.2.1] at this; cases this

theorem find?_eq_some_iff {p : Rule δ → Bool} {rules : List (Rule δ)} {r : Rule δ} :
    rules.find? p = some r ↔ ∃ i, IsFirst p rules i r := by
  rw [List.find?_eq_some_iff_getElem]
  constructor
  · rintro ⟨hp, i, hi, rfl, hbefore⟩
    refine ⟨i, List.getElem?_eq_getElem hi, hp, ?_⟩
    intro j hj s hs
    obtain ⟨hj', rfl⟩ := List.getElem?_eq_some_iff.1 hs
    simpa using hbefore j hj
  · rintro ⟨i, hr, hp, hbefore⟩
    obtain ⟨hi, rfl⟩ := List.getElem?_eq_some_iff.1 hr
    refine ⟨hp, i, hi, rfl, ?_⟩
    intro j hj
    simpa using hbefore j hj _ (List.getElem?_eq_getElem (Nat.lt_trans hj hi))

/-- Some rule is first wherever there is one at all. -/
theorem exists_isFirst {p : Rule δ → Bool} {rules : List (Rule δ)} {r : Rule δ} (hr : r ∈ rules)
    (hp : p r = true) : ∃ i s, IsFirst p rules i s := by
  cases h : rules.find? p with
  | none =>
    rw [List.find?_eq_none] at h
    exact absurd hp (h r hr)
  | some s =>
    obtain ⟨i, hi⟩ := find?_eq_some_iff.1 h
    exact ⟨i, s, hi⟩

theorem firstMatch?_eq_some_iff {rules : List (Rule δ)} {bag : Bag} {d : δ} :
    firstMatch? rules bag = some d ↔
      ∃ i r, IsFirst (fun r => r.matchesBag bag) rules i r ∧ r.data = d := by
  simp only [firstMatch?, Option.map_eq_some_iff, find?_eq_some_iff]
  constructor
  · rintro ⟨r, ⟨i, hi⟩, hd⟩; exact ⟨i, r, hi, hd⟩
  · rintro ⟨i, r, hi, hd⟩; exact ⟨r, ⟨i, hi⟩, hd⟩

/-- Reading the data of rules changes neither their places nor what they match. -/
theorem isFirst_of_mapM_typed? {read : Json.Fields → Option δ} {raw : List (Rule Json.Fields)}
    {rules : List (Rule δ)} (h : raw.mapM (typed? read) = .ok rules) {bag : Bag} {i : ℕ}
    {r : Rule δ}
    (hr : IsFirst (fun r => r.matchesBag bag) rules i r) :
    ∃ r', IsFirst (fun r => r.matchesBag bag) raw i r' ∧ read r'.data = some r.data := by
  obtain ⟨hplace, hmatch, hbefore⟩ := hr
  obtain ⟨r', hr', htyped⟩ := (Outcome.getElem?_of_mapM_eq_ok h i).2 r hplace
  obtain ⟨hcriteria, hdata⟩ := typed?_eq_ok_iff.1 htyped
  refine ⟨r', ⟨hr', ?_, ?_⟩, hdata⟩
  · exact (matchesBag_congr hcriteria bag).symm.trans hmatch
  · intro j hj s' hs'
    obtain ⟨s, hs, htyped⟩ := (Outcome.getElem?_of_mapM_eq_ok h j).1 s' hs'
    exact (matchesBag_congr (typed?_eq_ok_iff.1 htyped).1 bag).symm.trans (hbefore j hj s hs)

end Rule

end ShipEmissions
