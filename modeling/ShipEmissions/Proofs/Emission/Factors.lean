import ShipEmissions.Proofs.Emission.Powers

/-!
# Emission factors of accepted rules

A factor is found by two searches, one after the other. The first definition of a pollutant that
matches names a base value, and the first rule for that base value that matches gives the grams. If
there is none, the pollutant has no factor: the search does not go back to another definition.

* `Rule.SameUpToMatch`: lists that differ at most behind a rule that matches.
* `NamedRules.Finds`: what the first matching rule of a named list says.
* `getElem?_factorsFor_eq_some_iff`, `mem_factorsFor_iff`: the factors of one group of engines.
* `getElem?_factorsFor_congr`: rules behind the first that matches have no influence.
* `configFor?_factors`: the factors that accepted rules give every vessel in every mode.
-/

namespace ShipEmissions

/-! ## Lists that agree up to a match -/

/-- The lists have the same front and, unless a rule of the front matches the bag, nothing else
behind it either. -/
def Rule.SameUpToMatch {δ : Type} (bag : Bag) (rules rules' : List (Rule δ)) : Prop :=
  ∃ front rest rest', rules = front ++ rest ∧ rules' = front ++ rest' ∧
    ((∃ r ∈ front, r.matchesBag bag = true) ∨ rest = rest')

theorem Rule.SameUpToMatch.find?_eq {δ : Type} {bag : Bag} {rules rules' : List (Rule δ)}
    (h : SameUpToMatch bag rules rules') :
    rules.find? (fun r => r.matchesBag bag) = rules'.find? fun r => r.matchesBag bag := by
  obtain ⟨front, rest, rest', rfl, rfl, ⟨r, hr, hmatches⟩ | rfl⟩ := h
  · obtain ⟨i, s, hs⟩ := exists_isFirst (p := fun r : Rule δ => r.matchesBag bag) hr hmatches
    rw [List.find?_append, List.find?_append, find?_eq_some_iff.2 ⟨i, hs⟩, Option.some_or,
      Option.some_or]
  · rfl

/-! ## Maps of named lists -/

/-- Lists with the same names and related entries make maps with related values, also where names
occur more than once. -/
theorem rel_ofList {β γ : Type} {R : β → γ → Prop} {l : List (String × β)}
    {l' : List (String × γ)} (h : List.Forall₂ (fun a b => a.1 = b.1 ∧ R a.2 b.2) l l')
    (name : String) :
    Option.Rel R (Std.ExtTreeMap.ofList l)[name]? (Std.ExtTreeMap.ofList l')[name]? := by
  have hinsert : ∀ (m : Std.ExtTreeMap String β) (m' : Std.ExtTreeMap String γ),
      (∀ name : String, Option.Rel R m[name]? m'[name]?) →
      Option.Rel R (m.insertMany l)[name]? (m'.insertMany l')[name]? := by
    induction h with
    | nil =>
      intro m m' hm
      rw [Std.ExtTreeMap.insertMany_nil, Std.ExtTreeMap.insertMany_nil]
      exact hm name
    | @cons a b l l' hab _ ih =>
      intro m m' hm
      obtain ⟨key, x⟩ := a
      obtain ⟨key', y⟩ := b
      obtain ⟨rfl, hxy⟩ : key = key' ∧ R x y := hab
      rw [Std.ExtTreeMap.insertMany_cons, Std.ExtTreeMap.insertMany_cons]
      refine ih _ _ fun other => ?_
      rw [Std.ExtTreeMap.getElem?_insert, Std.ExtTreeMap.getElem?_insert]
      split
      · exact .some hxy
      · exact hm other
  rw [Std.ExtTreeMap.ofList_eq_insertMany_empty, Std.ExtTreeMap.ofList_eq_insertMany_empty]
  refine hinsert ∅ ∅ fun other => ?_
  rw [Std.ExtTreeMap.getElem?_empty, Std.ExtTreeMap.getElem?_empty]
  exact .none

/-- What is related to something that is there is there. -/
theorem exists_of_rel_left {β γ : Type} {R : β → γ → Prop} {a : Option β} {b : Option γ} {x : β}
    (h : Option.Rel R a b) (hx : a = some x) : ∃ y, b = some y ∧ R x y := by
  subst hx
  cases h with
  | some h => exact ⟨_, rfl, h⟩

theorem exists_of_rel_right {β γ : Type} {R : β → γ → Prop} {a : Option β} {b : Option γ} {y : γ}
    (h : Option.Rel R a b) (hy : b = some y) : ∃ x, a = some x ∧ R x y := by
  subst hy
  cases h with
  | some h => exact ⟨_, rfl, h⟩

namespace FactorRules

variable {δ : Type} {read : Json.Fields → Option δ} {bag : Bag} {name p : String} {x : δ}
  {rules rules' : FactorRules} {baseValues pollutants baseValues' pollutants' : NamedRules}
  {powers lowLoad powers' lowLoad' : List (Rule Json.Fields)}

/-! ## What the first matching rule says -/

/-- The rules that stand under a name. Of two lists with one name the later counts. -/
def NamedRules.rules? (named : NamedRules) (name : String) : Option (List (Rule Json.Fields)) :=
  (Std.ExtTreeMap.ofList named)[name]?

/-- Where no two lists have one name, all of them count. -/
theorem NamedRules.rules?_of_mem (named : NamedRules) (hnodup : (named.map Prod.fst).Nodup)
    {under : List (Rule Json.Fields)} (hmem : (name, under) ∈ named) :
    named.rules? name = some under :=
  getElem?_ofList_of_nodup hnodup hmem

/-- There are rules under a name, and `x` is what the first of them that matches a bag says. -/
def NamedRules.Finds (read : Json.Fields → Option δ) (named : NamedRules) (name : String)
    (bag : Bag) (x : δ) : Prop :=
  ∃ rules i r, named.rules? name = some rules ∧
    Rule.IsFirst (fun r => r.matchesBag bag) rules i r ∧ read r.data = some x

/-- Two rules are not first, so nothing else is found. -/
theorem NamedRules.Finds.unique {named : NamedRules} {y : δ} (hx : named.Finds read name bag x)
    (hy : named.Finds read name bag y) : x = y := by
  obtain ⟨rules, i, r, hrules, hr, hx⟩ := hx
  obtain ⟨rules', j, s, hrules', hs, hy⟩ := hy
  obtain rfl := Option.some.inj (hrules.symm.trans hrules')
  obtain rfl := (hr.unique hs).2
  exact Option.some.inj (hx.symm.trans hy)

theorem NamedRules.finds_iff_find? {named : NamedRules} :
    named.Finds read name bag x ↔ ∃ rules r, named.rules? name = some rules ∧
      rules.find? (fun r => r.matchesBag bag) = some r ∧ read r.data = some x := by
  constructor
  · rintro ⟨rules, i, r, hrules, hr, hx⟩
    exact ⟨rules, r, hrules, Rule.find?_eq_some_iff.2 ⟨i, hr⟩, hx⟩
  · rintro ⟨rules, r, hrules, hr, hx⟩
    obtain ⟨i, hi⟩ := Rule.find?_eq_some_iff.1 hr
    exact ⟨rules, i, r, hrules, hi, hx⟩

/-- Lists that agree up to a match say the same. -/
theorem NamedRules.finds_congr {named named' : NamedRules}
    (h : Option.Rel (Rule.SameUpToMatch bag) (named.rules? name) (named'.rules? name)) :
    named.Finds read name bag x ↔ named'.Finds read name bag x := by
  rw [finds_iff_find?, finds_iff_find?]
  generalize named.rules? name = a at h
  generalize named'.rules? name = b at h
  cases h with
  | none => simp
  | some h => simp [h.find?_eq]

/-- The rules under a name are read where they stand. -/
theorem rel_typedNamed? {named : NamedRules} {typed : List (String × List (Rule δ))}
    (h : typedNamed? read named = .ok typed) (name : String) :
    Option.Rel (fun raw rules => raw.mapM (Rule.typed? read) = .ok rules) (named.rules? name)
      (Std.ExtTreeMap.ofList typed)[name]? := by
  refine rel_ofList ((Outcome.mapM_eq_ok_iff.1 h).imp fun entry entry' hentry => ?_) name
  obtain ⟨rules, hrules, rfl⟩ := Outcome.map_eq_ok.1 hentry
  exact ⟨rfl, hrules⟩

/-- A rule that is first stays so when the data of all rules is read. -/
theorem finds_iff_firstMatch? {named : NamedRules} {typed : List (String × List (Rule δ))}
    (h : typedNamed? read named = .ok typed) :
    ((Std.ExtTreeMap.ofList typed)[name]?.bind fun rules => Rule.firstMatch? rules bag) = some x ↔
      named.Finds read name bag x := by
  have hread := rel_typedNamed? h name
  constructor
  · intro hfound
    obtain ⟨rules, hrules, hfound⟩ := Option.bind_eq_some_iff.1 hfound
    obtain ⟨i, r, hr, rfl⟩ := Rule.firstMatch?_eq_some_iff.1 hfound
    obtain ⟨raw, hraw, hread⟩ := exists_of_rel_right hread hrules
    obtain ⟨r', hr', hdata⟩ := Rule.isFirst_of_mapM_typed? hread hr
    exact ⟨raw, i, r', hraw, hr', hdata⟩
  · rintro ⟨raw, i, r', hraw, hr', hdata⟩
    obtain ⟨rules, hrules, hread⟩ := exists_of_rel_left hread hraw
    obtain ⟨r, hr, htyped⟩ := (Outcome.getElem?_of_mapM_eq_ok hread i).1 r' hr'.1
    have hmatches : r.matchesBag bag = true :=
      (Rule.matchesBag_congr (Rule.typed?_eq_ok_iff.1 htyped).1 bag).trans hr'.2.1
    obtain ⟨j, s, hs⟩ := Rule.exists_isFirst (p := fun r : Rule δ => r.matchesBag bag)
      (List.mem_of_getElem? hr) hmatches
    -- the first rule that was read was the first before
    obtain ⟨s', hs', hsdata⟩ := Rule.isFirst_of_mapM_typed? hread hs
    obtain rfl := (hs'.unique hr').2
    rw [hrules, Option.bind_some, Rule.firstMatch?_eq_some_iff]
    exact ⟨j, s, hs, Option.some.inj (hsdata.symm.trans hdata)⟩

/-! ## Factors -/

/-- What acceptance says about the rules for base values and for pollutants. -/
theorem named_of_ofRules? (h : ofRules? baseValues pollutants powers lowLoad = .ok rules) :
    ∃ typedBases typedPollutants, typedNamed? baseValueOfData? baseValues = .ok typedBases ∧
      typedNamed? PollutantDefinition.ofData? pollutants = .ok typedPollutants ∧
      rules.baseValues = .ofList typedBases ∧ rules.pollutants = .ofList typedPollutants := by
  obtain ⟨typedBases, hbases, h⟩ := Outcome.bind_eq_ok.1 h
  obtain ⟨typedPollutants, hpollutants, h⟩ := Outcome.bind_eq_ok.1 h
  refine ⟨typedBases, typedPollutants, hbases, hpollutants, ?_⟩
  split at h
  · cases h
  · obtain ⟨typedPowers, -, h⟩ := Outcome.bind_eq_ok.1 h
    dsimp only at h
    split at h
    · cases h
    · obtain ⟨typedLowLoad, -, h⟩ := Outcome.bind_eq_ok.1 h
      split at h
      · cases h
      · cases h
        exact ⟨rfl, rfl⟩

/-- A factor comes from the definition and from the base value that are found first. -/
theorem getElem?_factorsFor_eq_some_iff
    (h : ofRules? baseValues pollutants powers lowLoad = .ok rules) {vessel : Bag}
    {group : EngineGroup} {factor : Float} :
    (rules.factorsFor vessel group)[p]? = some factor ↔ ∃ definition base,
      pollutants.Finds PollutantDefinition.ofData? p (withGroup vessel group) definition ∧
      baseValues.Finds baseValueOfData? definition.baseValue (withGroup vessel group) base ∧
      factor = definition.offset + base * definition.multiplier := by
  obtain ⟨typedBases, typedPollutants, hbases, hpollutants, hbaseMap, hpollutantMap⟩ :=
    named_of_ofRules? h
  rw [factorsFor, Std.ExtTreeMap.getElem?_filterMap', hpollutantMap, Option.bind_eq_some_iff]
  constructor
  · rintro ⟨definitions, hdefinitions, hfactor⟩
    obtain ⟨definition, hdefinition, hfactor⟩ := Option.bind_eq_some_iff.1 hfactor
    obtain ⟨base, hbase, hfactor⟩ := Option.bind_eq_some_iff.1 hfactor
    rw [hbaseMap] at hbase
    refine ⟨definition, base, (finds_iff_firstMatch? hpollutants).1 ?_,
      (finds_iff_firstMatch? hbases).1 hbase, (Option.some.inj hfactor).symm⟩
    rw [hdefinitions]
    exact hdefinition
  · rintro ⟨definition, base, hdefinition, hbase, rfl⟩
    obtain ⟨definitions, hdefinitions, hdefinition⟩ :=
      Option.bind_eq_some_iff.1 ((finds_iff_firstMatch? hpollutants).2 hdefinition)
    refine ⟨definitions, hdefinitions, Option.bind_eq_some_iff.2 ⟨definition, hdefinition, ?_⟩⟩
    refine Option.bind_eq_some_iff.2 ⟨base, ?_, rfl⟩
    rw [hbaseMap]
    exact (finds_iff_firstMatch? hbases).2 hbase

/-- Accepted rules for a base value have data, so one that matches is enough. -/
theorem exists_finds_iff {named : NamedRules} {typed : List (String × List (Rule δ))}
    (h : typedNamed? read named = .ok typed) :
    (∃ x, named.Finds read name bag x) ↔
      ∃ rules, named.rules? name = some rules ∧ ∃ r ∈ rules, r.matchesBag bag = true := by
  constructor
  · rintro ⟨x, rules, i, r, hrules, hr, -⟩
    exact ⟨rules, hrules, r, List.mem_of_getElem? hr.1, hr.2.1⟩
  · rintro ⟨rules, hrules, r, hr, hmatches⟩
    obtain ⟨i, s, hs⟩ := Rule.exists_isFirst (p := fun r : Rule Json.Fields => r.matchesBag bag)
      hr hmatches
    obtain ⟨typedRules, -, hread⟩ := exists_of_rel_left (rel_typedNamed? h name) hrules
    obtain ⟨s', -, hs'⟩ := (Outcome.getElem?_of_mapM_eq_ok hread i).1 s hs.1
    exact ⟨s'.data, rules, i, s, hrules, hs, (Rule.typed?_eq_ok_iff.1 hs').2⟩

/-- A pollutant has a factor iff a definition is found and some rule for the base value that it
names matches. -/
theorem mem_factorsFor_iff (h : ofRules? baseValues pollutants powers lowLoad = .ok rules)
    {vessel : Bag} {group : EngineGroup} :
    p ∈ rules.factorsFor vessel group ↔ ∃ definition bases,
      pollutants.Finds PollutantDefinition.ofData? p (withGroup vessel group) definition ∧
      baseValues.rules? definition.baseValue = some bases ∧
      ∃ b ∈ bases, b.matchesBag (withGroup vessel group) = true := by
  obtain ⟨typedBases, -, hbases, -⟩ := named_of_ofRules? h
  rw [← Std.ExtTreeMap.isSome_getElem?_iff_mem, Option.isSome_iff_exists]
  simp only [getElem?_factorsFor_eq_some_iff h]
  constructor
  · rintro ⟨factor, definition, base, hdefinition, hbase, -⟩
    obtain ⟨bases, hrules, hmatches⟩ := (exists_finds_iff hbases).1 ⟨base, hbase⟩
    exact ⟨definition, bases, hdefinition, hrules, hmatches⟩
  · rintro ⟨definition, bases, hdefinition, hrules, hmatches⟩
    obtain ⟨base, hbase⟩ := (exists_finds_iff hbases).2 ⟨bases, hrules, hmatches⟩
    exact ⟨_, definition, base, hdefinition, hbase, rfl⟩

/-- What stands behind the first definition that matches, or behind the first rule for a base value
that matches, has no influence on a factor. -/
theorem getElem?_factorsFor_congr (h : ofRules? baseValues pollutants powers lowLoad = .ok rules)
    (h' : ofRules? baseValues' pollutants' powers' lowLoad' = .ok rules') {vessel : Bag}
    {group : EngineGroup}
    (hpollutants : Option.Rel (Rule.SameUpToMatch (withGroup vessel group))
      (pollutants.rules? p) (pollutants'.rules? p))
    (hbases : ∀ name, Option.Rel (Rule.SameUpToMatch (withGroup vessel group))
      (baseValues.rules? name) (baseValues'.rules? name)) :
    (rules.factorsFor vessel group)[p]? = (rules'.factorsFor vessel group)[p]? := by
  apply Option.ext
  intro factor
  simp only [getElem?_factorsFor_eq_some_iff h, getElem?_factorsFor_eq_some_iff h',
    NamedRules.finds_congr hpollutants, NamedRules.finds_congr (hbases _)]

/-- Accepted rules give every vessel in every mode factors for each group of engines. A pollutant
has one iff a definition of it matches the vessel with that group and some rule for the base value
that the first such definition names does so too; the factor is that of this definition and of the
first such rule. So without a rule for that base value no later definition helps, and rules behind
the first that matches have no influence. -/
theorem configFor?_factors (h : ofRules? baseValues pollutants powers lowLoad = .ok rules)
    (vessel : Vessel Float) (mode : Mode) :
    ∃ config, rules.configFor? vessel mode = .ok config ∧
      ∀ (group : EngineGroup) (p : String),
        (p ∈ config.factors group ↔ ∃ definition bases,
          pollutants.Finds PollutantDefinition.ofData? p (withGroup vessel.toBag group)
            definition ∧
          baseValues.rules? definition.baseValue = some bases ∧
          ∃ b ∈ bases, b.matchesBag (withGroup vessel.toBag group) = true) ∧
        (∀ factor : Float, (config.factors group)[p]? = some factor ↔ ∃ definition base,
          pollutants.Finds PollutantDefinition.ofData? p (withGroup vessel.toBag group)
            definition ∧
          baseValues.Finds baseValueOfData? definition.baseValue (withGroup vessel.toBag group)
            base ∧
          factor = definition.offset + base * definition.multiplier) ∧
        (∀ definition,
          pollutants.Finds PollutantDefinition.ofData? p (withGroup vessel.toBag group)
            definition →
          (∀ bases, baseValues.rules? definition.baseValue = some bases →
            ∀ b ∈ bases, b.matchesBag (withGroup vessel.toBag group) = false) →
          p ∉ config.factors group) ∧
        ∀ (baseValues' pollutants' : NamedRules) (powers' lowLoad' : List (Rule Json.Fields))
          (rules' : FactorRules) (mode' : Mode) (config' : EmissionConfig Float),
          ofRules? baseValues' pollutants' powers' lowLoad' = .ok rules' →
          rules'.configFor? vessel mode' = .ok config' →
          Option.Rel (Rule.SameUpToMatch (withGroup vessel.toBag group))
            (pollutants.rules? p) (pollutants'.rules? p) →
          (∀ name, Option.Rel (Rule.SameUpToMatch (withGroup vessel.toBag group))
            (baseValues.rules? name) (baseValues'.rules? name)) →
          (config.factors group)[p]? = (config'.factors group)[p]? := by
  obtain ⟨config, hconfig, hfactors, -⟩ := exists_config h vessel mode
  refine ⟨config, hconfig, fun group p => ⟨?mem, ?value, ?missing, ?behind⟩⟩
  case mem =>
    rw [hfactors]
    exact mem_factorsFor_iff h
  case value =>
    intro factor
    rw [hfactors]
    exact getElem?_factorsFor_eq_some_iff h
  case missing =>
    intro definition hdefinition hnone hmem
    rw [hfactors, mem_factorsFor_iff h] at hmem
    obtain ⟨definition', bases, hdefinition', hbases, b, hb, hmatches⟩ := hmem
    obtain rfl := hdefinition.unique hdefinition'
    rw [hnone bases hbases b hb] at hmatches
    cases hmatches
  case behind =>
    intro baseValues' pollutants' powers' lowLoad' rules' mode' config' h' hconfig' hpollutants
      hbases
    obtain ⟨same, hsame, hfactors', -⟩ := exists_config h' vessel mode'
    obtain rfl := Except.ok.inj (hsame.symm.trans hconfig')
    rw [hfactors, hfactors']
    exact getElem?_factorsFor_congr h h' hpollutants hbases

/-! ### A sample -/

/-- A rule without criteria. -/
def plainRule (data : Json.Fields) : Rule Json.Fields := ⟨[], data⟩

/-- A rule for one group of engines. -/
def groupRule (group : EngineGroup) (data : Json.Fields) : Rule Json.Fields :=
  ⟨[.equals "engine_group" (.ofTerm group)], data⟩

/-- Fuel is known for every group of engines, oil for none but the auxiliary engines. -/
def sampleBaseValues : NamedRules := [
  ("fuel", [plainRule [("g_per_kwh", .number (.integer 200))]]),
  ("oil", [groupRule .auxiliary [("g_per_kwh", .number (.integer 5))]])]

/-- Boilers emit by the oil that they burn, all other engines three times their fuel and two grams
more. -/
def samplePollutants : NamedRules := [
  ("co2", [
    groupRule .boiler [("base_value_name", .text "oil")],
    plainRule [("base_value_name", .text "fuel"), ("multiplier", .number (.integer 3)),
      ("offset_g_per_kwh", .number (.integer 2))]])]

/-- All groups have the same powers. -/
def samplePowers : List (Rule Json.Fields) := [plainRule [
  ("transit", .number (.integer 100)),
  ("maneuvering", .number (.integer 200)),
  ("hotelling", .number (.integer 300)),
  ("anchorage", .number (.integer 400))]]

/-- A vessel of no particular type. -/
def sampleVessel : Vessel Float := ⟨⟨1, 1, 1, .c1, .tier1, .misc, 0, .notApplicable⟩, by decide⟩

/-- The auxiliary engines have a factor by the second definition. Boilers have none: the first
definition matches them, though no rule for oil does. -/
theorem configFor?_factors_boiler : ∃ rules config,
    ofRules? sampleBaseValues samplePollutants samplePowers [] = .ok rules ∧
    rules.configFor? sampleVessel .hotelling = .ok config ∧
    (config.factors .auxiliary)["co2"]? = some (2 + 200 * 3) ∧ "co2" ∉ config.factors .boiler := by
  have hok : (ofRules? sampleBaseValues samplePollutants samplePowers []).toBool = true := by
    decide +kernel
  obtain ⟨rules, hrules⟩ : ∃ rules,
      ofRules? sampleBaseValues samplePollutants samplePowers [] = .ok rules := by
    cases h : ofRules? sampleBaseValues samplePollutants samplePowers [] with
    | error e => rw [h] at hok; cases hok
    | ok rules => exact ⟨rules, rfl⟩
  obtain ⟨config, hconfig, hfactors⟩ := configFor?_factors hrules sampleVessel .hotelling
  have hfuelRules := NamedRules.rules?_of_mem sampleBaseValues (by decide) (.head _)
  have hoilRules := NamedRules.rules?_of_mem sampleBaseValues (by decide) (.tail _ (.head _))
  have hco2Rules := NamedRules.rules?_of_mem samplePollutants (by decide) (.head _)
  refine ⟨rules, config, hrules, hconfig, ?auxiliary, ?boiler⟩
  case auxiliary =>
    refine ((hfactors .auxiliary "co2").2.1 _).2 ⟨⟨"fuel", 3, 2⟩, 200, ?_, ?_, rfl⟩
    · exact NamedRules.finds_iff_find?.2 ⟨_, _, hco2Rules,
        (List.find?_cons_of_neg (by decide +kernel)).trans
          (List.find?_cons_of_pos (by decide +kernel)), rfl⟩
    · exact NamedRules.finds_iff_find?.2 ⟨_, _, hfuelRules,
        List.find?_cons_of_pos (by decide +kernel), by decide +kernel⟩
  case boiler =>
    refine (hfactors .boiler "co2").2.2.1 ⟨"oil", 1, 0⟩ ?_ fun bases hbases => ?_
    · exact NamedRules.finds_iff_find?.2 ⟨_, _, hco2Rules,
        List.find?_cons_of_pos (by decide +kernel), rfl⟩
    · obtain rfl := Option.some.inj (hoilRules.symm.trans hbases)
      decide +kernel

end FactorRules

end ShipEmissions
