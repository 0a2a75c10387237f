import ShipEmissions.Proofs.Guess.Sizes

/-!
# The order of rules is their priority

The first pass keeps what a bag gives and takes every other attribute from the earliest rule that
matches and offers it when its turn comes. What a rule is matched against holds everything that the
rules before it have added, so the earliest rule is told place by place.

* `knownAt`, `Offers`, `IsEarliest`: what is known when a rule has its turn, what the rule offers
  then, and that no rule before it has offered the same attribute.
* `getElem?_knownAt_eq_some_iff`: at every place, what is known was given or comes from the earliest
  rule that offers it.
* `firstPass_takes_earliest`: the result of the first pass.
-/

namespace ShipEmissions

namespace GuessRules

variable {g : GuessRules} {context given known data : Bag} {rules : List (Rule Bag)} {name : String}
  {v : Value} {i j : ℕ}

/-! ## Bags without nulls -/

/-- No value is null. -/
def NoNulls (bag : Bag) : Prop := ∀ (name : String) (v : Value), bag[name]? = some v →
  v.isNull = false

theorem Fitting.noNulls (h : Fitting data) : NoNulls data := by
  intro name v hv
  have hfits := h name v hv
  have hname := Bag.isAttribute_iff.1 (isAttribute_of_fits hfits)
  cases v with
  | null =>
    simp only [Vessel.attributes, List.mem_cons, List.not_mem_nil, or_false] at hname
    rcases hname with rfl | rfl | rfl | rfl | rfl | rfl | rfl | rfl <;> cases hfits
  | boolean b => rfl
  | number x => rfl
  | text s => rfl

theorem noNulls_givenAttributes (given : Bag) : NoNulls (givenAttributes given) := by
  intro name v hv
  rw [getElem?_givenAttributes] at hv
  split at hv
  · exact (Bag.present?_eq_some_iff.1 hv).2
  · cases hv

theorem NoNulls.tryRule {r : Rule Bag} (hknown : NoNulls known) (hdata : NoNulls r.data) :
    NoNulls (tryRule context known r) := by
  apply tryRule_induction (P := NoNulls) hknown
  intro _ name v hv
  rw [getElem?_contribute, Option.or_eq_some_iff] at hv
  rcases hv with hv | ⟨-, hv⟩
  · exact hknown name v hv
  · exact hdata name v (mem_of_offer? hv)

theorem NoNulls.gather (hknown : NoNulls known) (hrules : ∀ r ∈ rules, NoNulls r.data) :
    NoNulls (gather context rules known) :=
  gather_induction (P := NoNulls) hknown fun _ r hr h => h.tryRule (hrules r hr)

/-! ## What a rule offers -/

/-- A size and its unit count iff the ship type that is known once the rule has had its say is the
rule's own. What is known may be given and need not make sense. -/
theorem agrees_iff_held (hknown : NoNulls known) (hdata : Fitting data) :
    agrees known data = true ↔ ∃ t, data["ship_type"]? = some t ∧
      (Bag.overlay data known)["ship_type"]? = some t := by
  rw [agrees]
  cases hd : data["ship_type"]? with
  | none =>
    have hnone : data.present? "ship_type" = none := by rw [Bag.present?, hd]; rfl
    rw [hnone]
    simp
  | some v =>
    obtain ⟨t, rfl⟩ := hdata.shipType hd
    have hheld : ∃ w, (Bag.overlay data known)["ship_type"]? = some w ∧ w.isNull = false := by
      cases hk : known["ship_type"]? with
      | none => exact ⟨.ofTerm t, by rw [Bag.getElem?_overlay, hk, hd, Option.none_or], rfl⟩
      | some w => exact ⟨w, Bag.within_overlay data known _ _ hk, hknown _ w hk⟩
    obtain ⟨w, hw, hnull⟩ := hheld
    have hfits : fitsShipType (Bag.overlay data known) (.ofTerm t) =
        (w.isNull || w == .ofTerm t) := by
      rw [fitsShipType, hw]
    rw [present?_of_fitting hdata hd, Option.any_some, hfits, hnull, Bool.false_or,
      Value.beq_ofTerm_iff, hw]
    constructor
    · rintro rfl
      exact ⟨_, rfl, rfl⟩
    · rintro ⟨_, ht, hwt⟩
      rw [Option.some.inj hwt, Option.some.inj ht]

theorem offer?_eq_some_iff_held (hknown : NoNulls known) (hdata : Fitting data) :
    offer? known data name = some v ↔ data[name]? = some v ∧
      (name = "size" ∨ name = "size_unit" → ∃ t, data["ship_type"]? = some t ∧
        (Bag.overlay data known)["ship_type"]? = some t) := by
  cases hsize : isSizeName name with
  | false =>
    have hname : ¬(name = "size" ∨ name = "size_unit") := fun h => by
      rw [isSizeName_iff.2 h] at hsize
      cases hsize
    rw [offer?_of_not_isSizeName hsize]
    exact ⟨fun h => ⟨h, fun h' => absurd h' hname⟩, And.left⟩
  | true =>
    rw [offer?_size hsize, imp_iff_right (isSizeName_iff.1 hsize), ← agrees_iff_held hknown hdata]
    cases agrees known data <;> simp

/-! ## Places of rules -/

/-- What is known when the rule at place `i` has its turn: the attributes that are given, and what
all rules before that place have added, with no rule left out. -/
def knownAt (g : GuessRules) (given : Bag) (i : ℕ) : Bag :=
  (g.guesses.take i).foldl (tryRule given) (givenAttributes given)

/-- The rule at place `i` matches the given bag with what is known by then on top, and gives the
attribute. A size and a unit are only offered if the ship type that is known, or that the rule has
just given, is the rule's own. -/
def Offers (g : GuessRules) (given : Bag) (i : ℕ) (name : String) (v : Value) : Prop :=
  ∃ r, g.guesses[i]? = some r ∧ r.matchesBag (Bag.overlay given (g.knownAt given i)) = true ∧
    r.data[name]? = some v ∧
    (name = "size" ∨ name = "size_unit" → ∃ t, r.data["ship_type"]? = some t ∧
      (Bag.overlay r.data (g.knownAt given i))["ship_type"]? = some t)

/-- The rule at place `i` offers a value, and no rule before it offers one for the same
attribute. -/
structure IsEarliest (g : GuessRules) (given : Bag) (i : ℕ) (name : String) (v : Value) : Prop where
  offers : g.Offers given i name v
  earliest : ∀ j < i, ∀ w, ¬g.Offers given j name w

theorem Sound.onlyGive_take (hg : Sound g) (i : ℕ) : OnlyGive (g.guesses.take i) :=
  fun r hr => hg.onlyGive r (List.mem_of_mem_take hr)

theorem Sound.knownAt_eq_gather (hg : Sound g) (given : Bag) (i : ℕ) :
    g.knownAt given i = gather given (g.guesses.take i) (givenAttributes given) :=
  (gather_eq_foldl (onlyAttributes_givenAttributes given) (hg.onlyGive_take i)).symm

theorem Sound.noNulls_knownAt (hg : Sound g) (given : Bag) (i : ℕ) :
    NoNulls (g.knownAt given i) := by
  rw [hg.knownAt_eq_gather]
  refine (noNulls_givenAttributes given).gather fun r hr => ?_
  exact (hg.guesses.data r (List.mem_of_mem_take hr)).fits.noNulls

/-- The rule at a place supplies an attribute iff the attribute is not known by then and the rule
offers it. -/
theorem Sound.supplies_iff (hg : Sound g) {r : Rule Bag} (hr : g.guesses[i]? = some r) :
    Supplies given (givenAttributes given) (g.guesses.take i) r name v ↔
      name ∉ g.knownAt given i ∧ g.Offers given i name v := by
  have hsound := hg.guesses.data r (List.mem_of_getElem? hr)
  have hoffer : offer? (g.knownAt given i) r.data name = some v ↔ r.data[name]? = some v ∧
      (name = "size" ∨ name = "size_unit" → ∃ t, r.data["ship_type"]? = some t ∧
        (Bag.overlay r.data (g.knownAt given i))["ship_type"]? = some t) :=
    offer?_eq_some_iff_held (hg.noNulls_knownAt given i) hsound.fits
  constructor
  · rintro ⟨hunknown, hfires, hoffered⟩
    rw [fires, ← hg.knownAt_eq_gather] at hfires
    rw [← hg.knownAt_eq_gather] at hunknown hoffered
    exact ⟨hunknown, r, hr, hfires, hoffer.1 hoffered⟩
  · rintro ⟨hunknown, s, hs, hmatch, hgives⟩
    obtain rfl := Option.some.inj (hr.symm.trans hs)
    refine ⟨?_, ?_, ?_⟩
    · rwa [← hg.knownAt_eq_gather]
    · rwa [fires, ← hg.knownAt_eq_gather]
    · rw [← hg.knownAt_eq_gather]
      exact hoffer.2 hgives

/-- What is known at a place was given, or a rule before that place supplied it. -/
theorem Sound.knownAt_eq_some_iff_supplied (hg : Sound g) :
    (g.knownAt given i)[name]? = some v ↔ (givenAttributes given)[name]? = some v ∨
      ∃ j < i, name ∉ g.knownAt given j ∧ g.Offers given j name v := by
  rw [hg.knownAt_eq_gather, getElem?_gather_eq_some_iff (onlyAttributes_givenAttributes given)
    (hg.onlyGive_take i)]
  refine or_congr_right ?_
  constructor
  · rintro ⟨before, r, after, hsplit, hsupplies⟩
    -- the rules before this one are those before its place
    have hplace : (g.guesses.take i)[before.length]? = some r := by
      rw [hsplit, List.getElem?_append_right (Nat.le_refl _), Nat.sub_self]
      rfl
    have hlt : before.length < i := by
      have hlength := (List.getElem?_eq_some_iff.1 hplace).1
      rw [List.length_take] at hlength
      omega
    have hr : g.guesses[before.length]? = some r := by
      rwa [List.getElem?_take_of_lt hlt] at hplace
    have hbefore : g.guesses.take before.length = before := by
      have htake : (before ++ r :: after).take before.length = before := List.take_left
      rwa [← hsplit, List.take_take, Nat.min_eq_left (Nat.le_of_lt hlt)] at htake
    rw [← hbefore] at hsupplies
    exact ⟨before.length, hlt, (hg.supplies_iff hr).1 hsupplies⟩
  · rintro ⟨j, hj, hunknown, hoffers⟩
    obtain ⟨r, hr, -⟩ := id hoffers
    have hlength := (List.getElem?_eq_some_iff.1 hr).1
    have hplace : (g.guesses.take i)[j]? = some r := by rwa [List.getElem?_take_of_lt hj]
    have htake : (g.guesses.take i).take j = g.guesses.take j := by
      rw [List.take_take, Nat.min_eq_left (Nat.le_of_lt hj)]
    refine ⟨g.guesses.take j, r, (g.guesses.take i).drop (j + 1), ?_, ?_⟩
    · have hget := List.getElem?_eq_some_iff.1 hplace
      rw [← htake, ← hget.2, List.getElem_cons_drop, List.take_append_drop]
    · exact (hg.supplies_iff hr).2 ⟨hunknown, hoffers⟩

theorem Sound.within_knownAt (hg : Sound g) (hij : i ≤ j) :
    (g.knownAt given i).Within (g.knownAt given j) := by
  intro name v hv
  rcases hg.knownAt_eq_some_iff_supplied.1 hv with hgiven | ⟨k, hk, hsupplied⟩
  · exact hg.knownAt_eq_some_iff_supplied.2 (Or.inl hgiven)
  · exact hg.knownAt_eq_some_iff_supplied.2 (Or.inr ⟨k, Nat.lt_of_lt_of_le hk hij, hsupplied⟩)

/-- What a rule offers is known after it. -/
theorem Sound.mem_knownAt_of_offers (hg : Sound g) (h : g.Offers given j name v) (hij : j < i) :
    name ∈ g.knownAt given i := by
  by_cases hknown : name ∈ g.knownAt given j
  · exact (hg.within_knownAt (Nat.le_of_lt hij)).mem hknown
  · exact Bag.mem_iff.2 ⟨v, hg.knownAt_eq_some_iff_supplied.2 (Or.inr ⟨j, hij, hknown, h⟩)⟩

/-- What is known at a place is what was given, and for attributes that were not given what the
earliest rule offers among those before that place. -/
theorem Sound.getElem?_knownAt_eq_some_iff (hg : Sound g) :
    (g.knownAt given i)[name]? = some v ↔
      Vessel.isAttribute name = true ∧ given.present? name = some v ∨
        given.present? name = none ∧ ∃ j < i, g.IsEarliest given j name v := by
  have hgiven : ∀ w, (givenAttributes given)[name]? = some w ↔
      Vessel.isAttribute name = true ∧ given.present? name = some w := by
    intro w
    rw [getElem?_givenAttributes]
    cases Vessel.isAttribute name <;> simp
  rw [hg.knownAt_eq_some_iff_supplied, hgiven]
  refine or_congr_right ?_
  constructor
  · rintro ⟨j, hj, hunknown, hoffers⟩
    refine ⟨?_, j, hj, hoffers, ?_⟩
    · obtain ⟨r, hr, -, hdata, -⟩ := hoffers
      have hname := hg.onlyGive r (List.mem_of_getElem? hr) name (Bag.mem_iff.2 ⟨v, hdata⟩)
      rw [Option.eq_none_iff_forall_ne_some]
      intro w hw
      exact hunknown (Bag.mem_iff.2 ⟨w, hg.knownAt_eq_some_iff_supplied.2
        (Or.inl ((hgiven w).2 ⟨hname, hw⟩))⟩)
    · intro k hk w hw
      exact hunknown (hg.mem_knownAt_of_offers hw hk)
  · rintro ⟨hnone, j, hj, hoffers, hearliest⟩
    refine ⟨j, hj, ?_, hoffers⟩
    intro hmem
    obtain ⟨w, hw⟩ := Bag.mem_iff.1 hmem
    rcases hg.knownAt_eq_some_iff_supplied.1 hw with hw | ⟨k, hk, -, hearlier⟩
    · rw [((hgiven w).1 hw).2] at hnone
      cases hnone
    · exact hearliest k hk w hearlier

/-! ## The first pass -/

/-- A bag that gives a ship type wherever it gives a size or a unit passes through the first pass.
The attributes that it gives are kept. Every other attribute comes from the earliest rule that
matches and offers it, where what a rule is matched against is told by the same law from the rules
before it. Nothing but attributes has a value, and none is null. Stopping as soon as no attribute is
missing makes no difference. -/
theorem firstPass_takes_earliest {guesses buildTimes : List (Rule Json.Fields)} {g : Guesser}
    (hg : Guesser.ofRules? guesses buildTimes = .ok g) {given : Bag}
    (hgiven : given.present? "ship_type" = none →
      given.present? "size" = none ∧ given.present? "size_unit" = none) :
    ∃ known, g.firstPass? given = .ok known ∧
      (g.complete? given = if given.contains "engine_nox_tier" then .ok known
        else g.improveTier? known given) ∧
      (∀ name v, known[name]? = some v ↔
        Vessel.isAttribute name = true ∧ given.present? name = some v ∨
          given.present? name = none ∧ ∃ i, g.IsEarliest given i name v) ∧
      (∀ i name v, (g.knownAt given i)[name]? = some v ↔
        Vessel.isAttribute name = true ∧ given.present? name = some v ∨
          given.present? name = none ∧ ∃ j < i, g.IsEarliest given j name v) ∧
      (∀ name v, known[name]? = some v → Vessel.isAttribute name = true ∧ v.isNull = false) ∧
      known = g.guesses.foldl (tryRule given) (givenAttributes given) := by
  have hsound := sound_of_guesser hg
  have hlast : g.afterFirst given = g.knownAt given g.guesses.length := by
    rw [hsound.knownAt_eq_gather, List.take_length]
    rfl
  have hfirst := firstPass?_eq_ok (g := g.toGuessRules) hgiven
  refine ⟨g.afterFirst given, hfirst, ?_, ?_, ?_, ?_, ?_⟩
  · rw [complete?_eq, hfirst]
    rfl
  · intro name v
    rw [hlast, hsound.getElem?_knownAt_eq_some_iff]
    -- there are no rules, and so no offers, at the places behind the last
    have hplace : ∀ i, g.IsEarliest given i name v → i < g.guesses.length := by
      rintro i ⟨⟨r, hr, -⟩, -⟩
      exact (List.getElem?_eq_some_iff.1 hr).1
    exact or_congr_right (and_congr_right fun _ => exists_congr fun i =>
      and_iff_right_of_imp (hplace i))
  · intro i name v
    exact hsound.getElem?_knownAt_eq_some_iff
  · intro name v hv
    refine ⟨?_, ?_⟩
    · exact (onlyAttributes_givenAttributes given).gather hsound.onlyGive name
        (Bag.mem_iff.2 ⟨v, hv⟩)
    · rw [hlast] at hv
      exact hsound.noNulls_knownAt given _ name v hv
  · rw [hlast, knownAt, List.take_length]

/-- With the small set of rules, a tug stays a tug, although the first rule, which matches it, gives
another type. -/
theorem firstPass_takes_earliest_tug : ∃ (guesses buildTimes : List (Rule Json.Fields))
    (g : Guesser) (given known : Bag), Guesser.ofRules? guesses buildTimes = .ok g ∧
      given = .ofList [("ship_type", .ofTerm ShipType.tug)] ∧
      (given.present? "ship_type" = none →
        given.present? "size" = none ∧ given.present? "size_unit" = none) ∧
      g.firstPass? given = .ok known ∧ known["ship_type"]? = some (.ofTerm ShipType.tug) ∧
      ∀ v, known["max_speed"]? = some v ↔ ∃ i, g.IsEarliest given i "max_speed" v := by
  obtain ⟨g, hg, -⟩ := exists_sampleGuesser
  obtain ⟨guesses, buildTimes, -, -, hg⟩ := sampleGuesser?_eq_ok_iff.1 hg
  have hget : ∀ name, (Bag.ofList [("ship_type", Value.ofTerm ShipType.tug)])[name]? =
      if "ship_type" = name then some (.ofTerm ShipType.tug) else none :=
    Bag.getElem?_ofList_singleton _ _
  have htype : (Bag.ofList [("ship_type", Value.ofTerm ShipType.tug)]).present? "ship_type" =
      some (.ofTerm ShipType.tug) := by
    rw [Bag.present?, hget, if_pos rfl]
    rfl
  have hspeed : (Bag.ofList [("ship_type", Value.ofTerm ShipType.tug)]).present? "max_speed" =
      none := by
    rw [Bag.present?, hget, if_neg (by decide)]
    rfl
  have hgiven : (Bag.ofList [("ship_type", Value.ofTerm ShipType.tug)]).present? "ship_type" =
      none → (Bag.ofList [("ship_type", Value.ofTerm ShipType.tug)]).present? "size" = none ∧
        (Bag.ofList [("ship_type", Value.ofTerm ShipType.tug)]).present? "size_unit" = none := by
    intro hnone
    rw [htype] at hnone
    cases hnone
  obtain ⟨known, hknown, -, hlaw, -⟩ := firstPass_takes_earliest hg hgiven
  refine ⟨guesses, buildTimes, g, _, known, hg, rfl, hgiven, hknown, ?_, ?_⟩
  · exact (hlaw _ _).2 (Or.inl ⟨rfl, htype⟩)
  · intro v
    rw [hlaw, hspeed]
    simp

end GuessRules

end ShipEmissions
