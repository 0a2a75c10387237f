import ShipEmissions.Proofs.Emission.Congruence
import ShipEmissions.Proofs.Rule.Language

/-!
# Emissions without one pollutant

To leave a pollutant out of a configuration is to leave it out of what is computed with it: every
step commutes with leaving out. So two configurations that differ in nothing else give the same
amounts of all other pollutants.

* `Pollutants.without_add`, `without_scale`, `without_adjust`: operations on maps keep pollutants
  apart.
* `Calculator.trackEmissions?_without`, `mooringEmissions?_without`: so do calculations.
* `FactorRules.configFor?_without`, `Config.ofJson?_without`: so do rules and their documents.
* `Config.emissions_sameBut`: configurations that differ in the entry of one pollutant.
-/

namespace ShipEmissions

variable {α : Type} [Scalar α]

/-! ## Maps without one name -/

section

variable {β : Type} {m : Std.ExtTreeMap String β} {q p : String}

theorem getElem?_erase_name : (m.erase q)[p]? = if q = p then none else m[p]? := by
  simp [Std.ExtTreeMap.getElem?_erase]

theorem erase_filterMap {γ : Type} (m : Std.ExtTreeMap String β) (f : β → Option γ) (q : String) :
    (m.filterMap fun _ x => f x).erase q = (m.erase q).filterMap fun _ x => f x := by
  apply Std.ExtTreeMap.ext_getElem?
  intro p
  rw [getElem?_erase_name, Std.ExtTreeMap.getElem?_filterMap', Std.ExtTreeMap.getElem?_filterMap',
    getElem?_erase_name]
  split <;> rfl

theorem erase_insert (m : Std.ExtTreeMap String β) (key : String) (x : β) (q : String) :
    (m.insert key x).erase q = if key = q then m.erase q else (m.erase q).insert key x := by
  apply Std.ExtTreeMap.ext_getElem?
  intro p
  by_cases hkey : key = q
  · subst hkey
    rw [if_pos rfl, getElem?_erase_name, getElem?_erase_name, Std.ExtTreeMap.getElem?_insert]
    by_cases hp : key = p <;> simp [hp]
  · rw [if_neg hkey, getElem?_erase_name, Std.ExtTreeMap.getElem?_insert,
      Std.ExtTreeMap.getElem?_insert, getElem?_erase_name]
    by_cases hp : key = p
    · subst hp
      simp [Ne.symm hkey]
    · simp [hp]

/-- The map of a list without some entries is the map without them, also where names occur more
than once. -/
theorem erase_ofList (l : List (String × β)) (q : String) :
    (Std.ExtTreeMap.ofList l).erase q =
      Std.ExtTreeMap.ofList (l.filter fun entry => entry.1 != q) := by
  have hinsert : ∀ m : Std.ExtTreeMap String β, (m.insertMany l).erase q =
      (m.erase q).insertMany (l.filter fun entry => entry.1 != q) := by
    induction l with
    | nil =>
      intro m
      rw [List.filter_nil, Std.ExtTreeMap.insertMany_nil, Std.ExtTreeMap.insertMany_nil]
    | cons entry l ih =>
      intro m
      obtain ⟨key, x⟩ := entry
      rw [Std.ExtTreeMap.insertMany_cons, ih, erase_insert]
      by_cases hkey : key = q
      · rw [if_pos hkey, List.filter_cons_of_neg (by simpa using hkey)]
      · rw [if_neg hkey, List.filter_cons_of_pos (by simpa using hkey),
          Std.ExtTreeMap.insertMany_cons]
  rw [Std.ExtTreeMap.ofList_eq_insertMany_empty, Std.ExtTreeMap.ofList_eq_insertMany_empty, hinsert]
  simp

end

/-! ## Amounts -/

namespace Pollutants

/-- The amounts of all pollutants but one. -/
def without {α : Type} (a : Pollutants α) (q : String) : Pollutants α := a.erase q

/-- Maps that have the same amounts of all pollutants but one. -/
def SameBut {α : Type} (q : String) (a b : Pollutants α) : Prop := ∀ p ≠ q, a[p]? = b[p]?

theorem sameBut_iff_without {α : Type} {a b : Pollutants α} {q : String} :
    SameBut q a b ↔ a.without q = b.without q := by
  constructor
  · intro h
    apply Std.ExtTreeMap.ext_getElem?
    intro p
    rw [without, without, getElem?_erase_name, getElem?_erase_name]
    by_cases hp : q = p
    · rw [if_pos hp, if_pos hp]
    · rw [if_neg hp, if_neg hp, h p (Ne.symm hp)]
  · intro h p hp
    have hlookup : (a.without q)[p]? = (b.without q)[p]? := by rw [h]
    rwa [without, without, getElem?_erase_name, getElem?_erase_name, if_neg hp.symm,
      if_neg hp.symm] at hlookup

/-- Two outcomes that are the same without a pollutant fail alike, or give the same amounts of all
other pollutants. -/
theorem related_of_without {α : Type} {x y : Except Error (Pollutants α)} {q : String}
    (h : (x.map fun total => total.without q) = y.map fun total => total.without q) :
    Outcome.Related (SameBut q) x y := by
  cases x with
  | error e =>
    cases y with
    | error e' => exact Except.error.inj h
    | ok b => cases h
  | ok a =>
    cases y with
    | error e' => cases h
    | ok b => exact sameBut_iff_without.2 (Except.ok.inj h)

theorem without_add (a b : Pollutants α) (q : String) :
    (a.add b).without q = (a.without q).add (b.without q) := by
  apply Std.ExtTreeMap.ext_getElem?
  intro p
  simp only [without, getElem?_add, getElem?_erase_name, Std.ExtTreeMap.getD_eq_getD_getElem?]
  split <;> rfl

theorem without_foldl_add (maps : List (Pollutants α)) (a : Pollutants α) (q : String) :
    (maps.foldl add a).without q = (maps.map fun b => b.without q).foldl add (a.without q) := by
  induction maps generalizing a with
  | nil => rfl
  | cons b maps ih => rw [List.foldl_cons, ih, without_add, List.map_cons, List.foldl_cons]

theorem without_scale (a : Pollutants α) (x : α) (q : String) :
    (a.scale x).without q = (a.without q).scale x := by
  apply Std.ExtTreeMap.ext_getElem?
  intro p
  simp only [without, scale, getElem?_erase_name, Std.ExtTreeMap.getElem?_map]
  split <;> rfl

theorem without_adjust (a factors : Pollutants α) (q : String) :
    (a.adjust factors).without q = (a.without q).adjust factors := by
  apply Std.ExtTreeMap.ext_getElem?
  intro p
  simp only [without, adjust, getElem?_erase_name, Std.ExtTreeMap.getElem?_map]
  split <;> rfl

end Pollutants

/-! ## Calculations -/

/-- The factors for all pollutants but one; powers and adjustments stay. -/
def EmissionConfig.without (config : EmissionConfig α) (q : String) : EmissionConfig α :=
  { config with factors := fun group => (config.factors group).without q }

theorem EmissionConfig.emissions_without (config : EmissionConfig α) (q : String)
    (group : EngineGroup) (kwh : α) :
    (config.without q).emissions group kwh = (config.emissions group kwh).without q :=
  (Pollutants.without_scale _ kwh q).symm

namespace Calculator

/-- The same calculations without factors for a pollutant. -/
def without (c : Calculator α) (q : String) : Calculator α :=
  { c with configFor? := fun vessel mode =>
      (c.configFor? vessel mode).map fun config => config.without q }

variable (c : Calculator α) (config : EmissionConfig α) (q : String)

/-- The load does not depend on the factors, so the adjustment for it is the same. -/
theorem segmentEmissions_without (s : Segment α) :
    (c.without q).segmentEmissions (config.without q) s =
      (c.segmentEmissions config s).without q := by
  have hadjustment : (config.without q).adjustmentAt? ((c.without q).segmentLoad s) =
      config.adjustmentAt? (c.segmentLoad s) := rfl
  rw [segmentEmissions, segmentEmissions, hadjustment, EmissionConfig.emissions_without]
  cases config.adjustmentAt? (c.segmentLoad s) with
  | some factors => exact (Pollutants.without_adjust _ factors q).symm
  | none => rfl

theorem withFixedEmissions?_without (hours : α) (masses : Pollutants α) :
    withFixedEmissions? (config.without q) hours (masses.without q) =
      (withFixedEmissions? config hours masses).map fun total => total.without q := by
  rw [withFixedEmissions?_eq_ok, withFixedEmissions?_eq_ok, EmissionConfig.emissions_without,
    EmissionConfig.emissions_without, ← Pollutants.without_add, ← Pollutants.without_add]
  rfl

/-- What is emitted on a track without factors for a pollutant is what is emitted with them, without
the pollutant. -/
theorem trackEmissions?_without (t : Track α) (mode : Mode) :
    (c.without q).trackEmissions? t mode =
      (c.trackEmissions? t mode).map fun total => total.without q := by
  rw [trackEmissions?, trackEmissions?]
  by_cases hmode : mode.isMoving = true
  · rw [if_pos hmode, if_pos hmode]
    show ((c.configFor? c.vessel mode).map _ >>= _) = _
    cases c.configFor? c.vessel mode with
    | error e => rfl
    | ok config =>
      have hsegments : t.segments.map ((c.without q).segmentEmissions (config.without q)) =
          (t.segments.map (c.segmentEmissions config)).map fun masses => masses.without q := by
        rw [List.map_map]
        exact List.map_congr_left fun s _ => c.segmentEmissions_without config q s
      have hpropulsion :=
        Pollutants.without_foldl_add (t.segments.map (c.segmentEmissions config)) ∅ q
      rw [← hsegments] at hpropulsion
      have hfixed := withFixedEmissions?_without config q t.hours
        (.total (t.segments.map (c.segmentEmissions config)))
      rw [Pollutants.total, hpropulsion] at hfixed
      exact hfixed
  · rw [if_neg hmode, if_neg hmode]
    rfl

/-- The same for a moored vessel. -/
theorem mooringEmissions?_without (time : Duration) (mode : Mode) :
    (c.without q).mooringEmissions? time mode =
      (c.mooringEmissions? time mode).map fun total => total.without q := by
  rw [mooringEmissions?, mooringEmissions?]
  by_cases hmode : mode.isMoving = true
  · rw [if_pos hmode, if_pos hmode]
    rfl
  · rw [if_neg hmode, if_neg hmode]
    show ((c.configFor? c.vessel mode).map _ >>= _) = _
    cases c.configFor? c.vessel mode with
    | error e => rfl
    | ok config => exact withFixedEmissions?_without config q time.hours ∅

end Calculator

/-! ## Rules -/

theorem EmissionConfig.ofTables?_without (factors : List (EngineGroup × Pollutants α))
    (powers : List (EngineGroup × α)) (lowLoad : List (Interval α × Pollutants α)) (q : String) :
    ofTables? (factors.map fun (group, masses) => (group, masses.without q)) powers lowLoad =
      (ofTables? factors powers lowLoad).map fun config => config.without q := by
  have hgroups : (factors.map fun (group, masses) => (group, masses.without q)).map Prod.fst =
      factors.map Prod.fst := by
    rw [List.map_map]
    rfl
  have hlookup : ∀ group,
      ((factors.map fun (group, masses) => (group, masses.without q)).lookup group).getD ∅ =
        Pollutants.without ((factors.lookup group).getD ∅) q := by
    intro group
    induction factors with
    | nil => rfl
    | cons entry factors ih =>
      obtain ⟨other, masses⟩ := entry
      rw [List.map_cons, List.lookup_cons, List.lookup_cons]
      cases group == other with
      | true => rfl
      | false => exact ih (by rw [List.map_map]; rfl)
  rw [ofTables?, ofTables?, hgroups]
  split
  · rfl
  · split
    · rfl
    · simp only [hlookup]
      rfl

namespace FactorRules

/-- The rules for all pollutants but one. -/
def without (rules : FactorRules) (q : String) : FactorRules :=
  { rules with pollutants := rules.pollutants.erase q }

variable {rules : FactorRules}

theorem factorsFor_without (rules : FactorRules) (q : String) (vessel : Bag)
    (group : EngineGroup) :
    (rules.without q).factorsFor vessel group = (rules.factorsFor vessel group).without q :=
  (erase_filterMap rules.pollutants _ q).symm

/-- Powers and adjustments are found by rules that stay. -/
theorem configFor?_without (rules : FactorRules) (q : String) (vessel : Vessel Float)
    (mode : Mode) :
    (rules.without q).configFor? vessel mode =
      (rules.configFor? vessel mode).map fun config => config.without q := by
  have hfactors : (Vocabulary.all : List EngineGroup).map (fun group =>
      (group, (rules.without q).factorsFor vessel.toBag group)) =
      ((Vocabulary.all : List EngineGroup).map fun group =>
        (group, rules.factorsFor vessel.toBag group)).map
          fun (group, masses) => (group, masses.without q) := by
    rw [List.map_map]
    exact List.map_congr_left fun group _ => by rw [factorsFor_without]; rfl
  rw [configFor?, configFor?, hfactors]
  show (EngineGroup.nonPropulsion.mapM (fun group =>
    (rules.powerFor? vessel.toBag group mode).map fun kw => (group, kw)) >>= _) = _
  cases EngineGroup.nonPropulsion.mapM (fun group =>
      (rules.powerFor? vessel.toBag group mode).map fun kw => (group, kw)) with
  | error e => rfl
  | ok powers =>
    exact EmissionConfig.ofTables?_without ((Vocabulary.all : List EngineGroup).map fun group =>
      (group, rules.factorsFor vessel.toBag group)) powers (rules.lowLoadFor vessel.toBag) q

/-! ### Checking rules -/

/-- Names of lists of rules stay when the rules are read. -/
theorem typedNamed?_filter {δ : Type} {read : Json.Fields → Option δ} {named : NamedRules}
    {typed : List (String × List (Rule δ))} (h : typedNamed? read named = .ok typed)
    (q : String) :
    typedNamed? read (named.filter fun entry => entry.1 != q) =
      .ok (typed.filter fun entry => entry.1 != q) := by
  refine Outcome.mapM_filter h fun entry entry' hentry => ?_
  obtain ⟨rules, -, rfl⟩ := Outcome.map_eq_ok.1 hentry
  rfl

theorem unknownBaseValue?_filter {baseValues : List (String × List (Rule Float))}
    {pollutants : List (String × List (Rule PollutantDefinition))}
    (h : unknownBaseValue? baseValues pollutants = none) (q : String) :
    unknownBaseValue? baseValues (pollutants.filter fun entry => entry.1 != q) = none := by
  rw [unknownBaseValue?, List.find?_eq_none] at h ⊢
  intro name hname
  obtain ⟨r, hr, rfl⟩ := List.mem_map.1 hname
  obtain ⟨entry, hentry, hr⟩ := List.mem_flatMap.1 hr
  exact h _ (List.mem_map_of_mem (List.mem_flatMap.2 ⟨entry, List.mem_of_mem_filter hentry, hr⟩))

/-- Rules that are accepted are accepted without those for a pollutant. -/
theorem ofRules?_without {baseValues pollutants : NamedRules}
    {powers lowLoad : List (Rule Json.Fields)} {rules : FactorRules}
    (h : ofRules? baseValues pollutants powers lowLoad = .ok rules) (q : String) :
    ofRules? baseValues (pollutants.filter fun entry => entry.1 != q) powers lowLoad =
      .ok (rules.without q) := by
  obtain ⟨typedBases, hbases, h⟩ := Outcome.bind_eq_ok.1 h
  obtain ⟨typed, htyped, h⟩ := Outcome.bind_eq_ok.1 h
  refine Outcome.bind_eq_ok.2 ⟨typedBases, hbases, ?_⟩
  refine Outcome.bind_eq_ok.2 ⟨_, typedNamed?_filter htyped q, ?_⟩
  split at h
  · cases h
  · next hknown =>
    rw [unknownBaseValue?_filter hknown q]
    obtain ⟨typedPowers, hpowers, h⟩ := Outcome.bind_eq_ok.1 h
    refine Outcome.bind_eq_ok.2 ⟨typedPowers, hpowers, ?_⟩
    dsimp only at h ⊢
    split at h
    · cases h
    · next hdefaults =>
      rw [if_neg hdefaults]
      obtain ⟨typedLowLoad, hlowLoad, h⟩ := Outcome.bind_eq_ok.1 h
      refine Outcome.bind_eq_ok.2 ⟨typedLowLoad, hlowLoad, ?_⟩
      split at h
      · cases h
      · next hempty =>
        cases h
        rw [if_neg hempty, without, erase_ofList]
        rfl

end FactorRules

/-! ## Documents -/

namespace Json

/-- A document without the fields of one name. -/
def withoutField (name : String) : Json → Json
  | .object fields => .object (fields.filter fun (key, _) => key != name)
  | doc => doc

/-- A document without the fields of one name in one of its parts. -/
def withoutEntry (part name : String) : Json → Json
  | .object fields =>
    .object (fields.map fun (key, value) =>
      (key, if key = part then value.withoutField name else value))
  | doc => doc

theorem field?_withoutEntry (doc : Json) (part name key : String) :
    (doc.withoutEntry part name).field? key =
      (doc.field? key).map fun value => if key = part then value.withoutField name else value := by
  cases doc with
  | object fields =>
    show (fields.map _).lookup key = (fields.lookup key).map _
    induction fields with
    | nil => rfl
    | cons field fields ih =>
      obtain ⟨other, value⟩ := field
      rw [List.map_cons, List.lookup_cons, List.lookup_cons]
      cases hother : key == other with
      | true =>
        rw [← eq_of_beq hother]
        rfl
      | false => exact ih
  | _ => rfl

end Json

theorem Rule.namedOfJson?_without {names : Names} {doc : Json} {named : FactorRules.NamedRules}
    (h : namedOfJson? names doc = .ok named) (q : String) :
    namedOfJson? names (doc.withoutField q) = .ok (named.filter fun entry => entry.1 != q) := by
  cases doc with
  | object fields =>
    refine Outcome.mapM_filter h fun entry entry' hentry => ?_
    obtain ⟨rules, -, rfl⟩ := Outcome.map_eq_ok.1 hentry
    rfl
  | _ => cases h

namespace Config

/-- The configuration for all pollutants but one. -/
def without (config : Config) (q : String) : Config :=
  { config with factors := config.factors.without q }

theorem calculator_without (config : Config) (q : String) (vessel : Vessel Float)
    (segmentHours : Segment Float → Float) :
    (config.without q).calculator vessel segmentHours =
      (config.calculator vessel segmentHours).without q := by
  have hconfigFor : (config.factors.without q).configFor? = fun vessel mode =>
      (config.factors.configFor? vessel mode).map fun found => found.without q := by
    funext vessel mode
    exact FactorRules.configFor?_without config.factors q vessel mode
  show Calculator.mk _ (config.factors.without q).configFor? _ _ = _
  rw [hconfigFor]
  rfl

theorem part?_withoutEntry (doc : Json) (part name key : String) :
    part? (doc.withoutEntry part name) key =
      (part? doc key).map fun value => if key = part then value.withoutField name else value := by
  rw [part?, part?, Json.field?_withoutEntry]
  cases doc.field? key <;> rfl

/-- A document that is accepted is accepted without the entry of a pollutant, and gives the same
configuration without the pollutant. -/
theorem ofJson?_without {names : Names} {doc : Json} {config : Config}
    (h : ofJson? names doc = .ok config) (q : String) :
    ofJson? names (doc.withoutEntry "pollutants" q) = .ok (config.without q) := by
  have hpart : ∀ key, key ≠ "pollutants" →
      part? (doc.withoutEntry "pollutants" q) key = part? doc key := by
    intro key hkey
    rw [part?_withoutEntry]
    simp only [if_neg hkey]
    cases part? doc key <;> rfl
  have hpollutants : ∀ named, (part? doc "pollutants" >>= Rule.namedOfJson? names) = .ok named →
      (part? (doc.withoutEntry "pollutants" q) "pollutants" >>= Rule.namedOfJson? names) =
        .ok (named.filter fun entry => entry.1 != q) := by
    intro named hread
    obtain ⟨value, hvalue, hread⟩ := Outcome.bind_eq_ok.1 hread
    rw [part?_withoutEntry, hvalue]
    exact Rule.namedOfJson?_without hread q
  obtain ⟨seaMargin, hseaMargin, h⟩ := Outcome.bind_eq_ok.1 h
  obtain ⟨baseValues, hbaseValues, h⟩ := Outcome.bind_eq_ok.1 h
  obtain ⟨pollutants, hread, h⟩ := Outcome.bind_eq_ok.1 h
  obtain ⟨powers, hpowers, h⟩ := Outcome.bind_eq_ok.1 h
  obtain ⟨guesses, hguesses, h⟩ := Outcome.bind_eq_ok.1 h
  obtain ⟨buildTimes, hbuildTimes, h⟩ := Outcome.bind_eq_ok.1 h
  obtain ⟨lowLoad, hlowLoad, h⟩ := Outcome.bind_eq_ok.1 h
  obtain ⟨factors, hfactors, h⟩ := Outcome.bind_eq_ok.1 h
  obtain ⟨guesser, hguesser, h⟩ := Outcome.bind_eq_ok.1 h
  cases h
  rw [ofJson?, hpart "sea_margin_adjustment_factor" (by decide), hpart "base_values" (by decide),
    hpart "default_engine_powers" (by decide), hpart "vessel_info_guess_data" (by decide),
    hpart "average_vessel_build_times" (by decide), hpart "low_load_adjustment_factors" (by decide)]
  refine Outcome.bind_eq_ok.2 ⟨seaMargin, hseaMargin, ?_⟩
  refine Outcome.bind_eq_ok.2 ⟨baseValues, hbaseValues, ?_⟩
  refine Outcome.bind_eq_ok.2 ⟨_, hpollutants pollutants hread, ?_⟩
  refine Outcome.bind_eq_ok.2 ⟨powers, hpowers, ?_⟩
  refine Outcome.bind_eq_ok.2 ⟨guesses, hguesses, ?_⟩
  refine Outcome.bind_eq_ok.2 ⟨buildTimes, hbuildTimes, ?_⟩
  refine Outcome.bind_eq_ok.2 ⟨lowLoad, hlowLoad, ?_⟩
  refine Outcome.bind_eq_ok.2 ⟨_, FactorRules.ofRules?_without hfactors q, ?_⟩
  exact Outcome.bind_eq_ok.2 ⟨guesser, hguesser, rfl⟩

/-- A configuration is the same under every registry with which it is accepted. -/
theorem ofJson?_agree (names names' : Names) (doc : Json) :
    Outcome.Agree (ofJson? names doc) (ofJson? names' doc) := by
  have hlist : ∀ key, Outcome.Agree (part? doc key >>= Rule.listOfJson? names)
      (part? doc key >>= Rule.listOfJson? names') := fun key =>
    (Outcome.Agree.refl _).bind (Rule.listOfJson?_agree names names')
  have hnamed : ∀ key, Outcome.Agree (part? doc key >>= Rule.namedOfJson? names)
      (part? doc key >>= Rule.namedOfJson? names') := fun key =>
    (Outcome.Agree.refl _).bind (Rule.namedOfJson?_agree names names')
  refine (Outcome.Agree.refl _).bind fun seaMargin => ?_
  refine (hnamed _).bind fun baseValues => ?_
  refine (hnamed _).bind fun pollutants => ?_
  refine (hlist _).bind fun powers => ?_
  refine (hlist _).bind fun guesses => ?_
  refine (hlist _).bind fun buildTimes => ?_
  refine (hlist _).bind fun lowLoad => ?_
  exact .refl _

/-- Two configurations, from documents that agree on everything but the entry of one pollutant, give
the same amounts of all other pollutants, for every vessel in every mode, on every track and for
every time at berth; and where one calculation fails, so does the other, with the same error. -/
theorem emissions_sameBut {names names' : Names} {doc doc' : Json} {config config' : Config}
    {q : String} (hconfig : ofJson? names doc = .ok config)
    (hconfig' : ofJson? names' doc' = .ok config')
    (hdocs : doc.withoutEntry "pollutants" q = doc'.withoutEntry "pollutants" q)
    (vessel : Vessel Float) (segmentHours : Segment Float → Float) (mode : Mode) :
    (∀ t : Track Float, Outcome.Related (Pollutants.SameBut q)
      ((config.calculator vessel segmentHours).trackEmissions? t mode)
      ((config'.calculator vessel segmentHours).trackEmissions? t mode)) ∧
    ∀ time : Duration, Outcome.Related (Pollutants.SameBut q)
      ((config.calculator vessel segmentHours).mooringEmissions? time mode)
      ((config'.calculator vessel segmentHours).mooringEmissions? time mode) := by
  have hsame : config.without q = config'.without q := by
    have hwithout := ofJson?_without hconfig q
    rw [hdocs] at hwithout
    exact ofJson?_agree names names' _ _ _ hwithout (ofJson?_without hconfig' q)
  have hcalculator : (config.calculator vessel segmentHours).without q =
      (config'.calculator vessel segmentHours).without q := by
    rw [← calculator_without, hsame, calculator_without]
  constructor
  · intro t
    apply Pollutants.related_of_without
    rw [← Calculator.trackEmissions?_without, hcalculator, Calculator.trackEmissions?_without]
  · intro time
    apply Pollutants.related_of_without
    rw [← Calculator.mooringEmissions?_without, hcalculator, Calculator.mooringEmissions?_without]

/-! ### A sample -/

/-- A pollutant that fuel gives a multiple of. -/
def fuelShare (name : String) (multiplier : Int) : String × Json :=
  (name, .array [.object [
    ("base_value_name", .text "fuel"),
    ("match_criteria", .object []),
    ("multiplier", .number (.integer multiplier))]])

/-- A configuration with these pollutants, and the small set of rules for guessing. -/
def fuelDocument (pollutants : Json.Fields) : Json := .object [
  ("sea_margin_adjustment_factor", .number (.integer 1)),
  ("base_values", .object [("fuel", .array [.object [
    ("g_per_kwh", .number (.integer 200)),
    ("match_criteria", .object [])]])]),
  ("pollutants", .object pollutants),
  ("default_engine_powers", .array [.object [
    ("match_criteria", .object []),
    ("transit", .number (.integer 100)),
    ("maneuvering", .number (.integer 200)),
    ("hotelling", .number (.integer 300)),
    ("anchorage", .number (.integer 400))]]),
  ("vessel_info_guess_data", GuessRules.sampleGuesses),
  ("average_vessel_build_times", GuessRules.sampleBuildTimes),
  ("low_load_adjustment_factors", .array [])]

/-- Without sulfur dioxide in the configuration, the standard vessel emits as much carbon dioxide in
an hour at berth as with it. -/
theorem emissions_sameBut_sulfur : ∃ config config' : Config,
    ofJson? .builtIn (fuelDocument [fuelShare "co2" 3, fuelShare "so2" 2]) = .ok config ∧
    ofJson? .builtIn (fuelDocument [fuelShare "co2" 3]) = .ok config' ∧
    (fuelDocument [fuelShare "co2" 3, fuelShare "so2" 2]).withoutEntry "pollutants" "so2" =
      (fuelDocument [fuelShare "co2" 3]).withoutEntry "pollutants" "so2" ∧
    ∃ a b : Pollutants Float,
      (config.calculator config.guesser.standard Segment.hours).mooringEmissions?
        ⟨3600000000000⟩ .hotelling = .ok a ∧
      (config'.calculator config.guesser.standard Segment.hours).mooringEmissions?
        ⟨3600000000000⟩ .hotelling = .ok b ∧ "co2" ∈ a ∧ a["co2"]? = b["co2"]? := by
  have hemits : (do
      let config ← ofJson? .builtIn (fuelDocument [fuelShare "co2" 3, fuelShare "so2" 2])
      let masses ← (config.calculator config.guesser.standard Segment.hours).mooringEmissions?
        ⟨3600000000000⟩ .hotelling
      return masses.contains "co2") = .ok true :=
    Outcome.eq_ok_of_toOption (by decide +kernel)
  have haccepted :
      ((ofJson? .builtIn (fuelDocument [fuelShare "co2" 3])).map fun _ => ()) = .ok () :=
    Outcome.eq_ok_of_toOption (by decide +kernel)
  have hdocs :
      (fuelDocument [fuelShare "co2" 3, fuelShare "so2" 2]).withoutEntry "pollutants" "so2" =
        (fuelDocument [fuelShare "co2" 3]).withoutEntry "pollutants" "so2" := rfl
  obtain ⟨config, hconfig, hemits⟩ := Outcome.bind_eq_ok.1 hemits
  obtain ⟨a, ha, hlisted⟩ := Outcome.bind_eq_ok.1 hemits
  obtain ⟨config', hconfig', -⟩ := Outcome.map_eq_ok.1 haccepted
  have hrelated := (emissions_sameBut hconfig hconfig' hdocs config.guesser.standard
    Segment.hours .hotelling).2 ⟨3600000000000⟩
  rw [ha] at hrelated
  cases hb : (config'.calculator config.guesser.standard Segment.hours).mooringEmissions?
      ⟨3600000000000⟩ .hotelling with
  | error e => rw [hb] at hrelated; cases hrelated
  | ok b =>
    rw [hb] at hrelated
    have hmem : "co2" ∈ a := Std.ExtTreeMap.contains_iff_mem.1 (Outcome.pure_eq_ok.1 hlisted)
    exact ⟨config, config', hconfig, hconfig', hdocs, a, b, ha, hb, hmem,
      hrelated "co2" (by decide)⟩

end Config

end ShipEmissions
