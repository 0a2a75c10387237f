import ShipEmissions.Proofs.Rule.Language

/-!
# What criteria look at

A criterion that is read looks at one name, however deep its alternatives go, and learns nothing of
a bag but what stands under that name. If the check of the name refuses null, the criterion cannot
even tell a null from nothing at all.

* `Criterion.On`: criteria whose parts are all on one name.
* `On.holds_congr`, `On.holds_congr_of_present`: what decides whether such a criterion is met.
* `Criterion.Blind`: two entries that a criterion cannot tell apart.
* `Rule.WellRead`, `Rule.wellRead_of_listOfJson?`: the criteria of rules that were read.
-/

namespace ShipEmissions

/-! ## Criteria on one name -/

namespace Criterion

variable {names : Names} {name : String} {a b bag : Bag} {c : Criterion} {x y : Option Value}

/-- All parts of a criterion are on one name. -/
inductive On (name : String) : Criterion → Prop
  | equals (value : Value) : On name (.equals name value)
  | within (range : Interval Float) : On name (.within name range)
  | anyOf {cs : List Criterion} (hcs : ∀ c ∈ cs, On name c) : On name (.anyOf name cs)

theorem holdsAny_congr {cs : List Criterion} (h : ∀ c ∈ cs, c.holds a = c.holds b) :
    holdsAny a cs = holdsAny b cs := by
  induction cs with
  | nil => rw [holdsAny, holdsAny]
  | cons c cs ih =>
    rw [holdsAny, holdsAny, h c List.mem_cons_self, ih fun d hd => h d (List.mem_cons_of_mem c hd)]

/-- Bags with the same entry under the name of a criterion meet it alike. -/
theorem On.holds_congr (h : On name c) (hab : a[name]? = b[name]?) : c.holds a = c.holds b := by
  induction h with
  | equals value => rw [holds, holds, hab]
  | within range => rw [holds, holds, hab]
  | anyOf _ ih =>
    rw [holds, holds]
    exact holdsAny_congr ih

/-- A null equals no constant but null. -/
theorem holds_equals_of_not_null {value : Value} (hvalue : value.isNull = false) :
    (equals name value).holds bag = (bag.present? name == some value) := by
  rw [holds, Bag.present?]
  cases bag[name]? with
  | none => rfl
  | some v =>
    cases v with
    | null =>
      cases value with
      | null => cases hvalue
      | _ => rfl
    | _ => rfl

/-- A null lies in no interval. -/
theorem holds_within {range : Interval Float} :
    (within name range).holds bag =
      ((bag.present? name).bind Value.number?).any fun x => range.Mem x := by
  rw [holds, Bag.present?]
  cases bag[name]? with
  | none => rfl
  | some v => cases v <;> rfl

/-- A criterion whose constants pass a check that null does not pass takes null for nothing. -/
theorem On.holds_congr_of_present (h : On name c) {check : Check} (hnull : check .null = false)
    (hpass : c.constantsPass check = true) (hab : a.present? name = b.present? name) :
    c.holds a = c.holds b := by
  induction h with
  | equals value =>
    have hvalue : value.isNull = false := by
      rw [constantsPass] at hpass
      cases value with
      | null => rw [hnull] at hpass; cases hpass
      | _ => rfl
    rw [holds_equals_of_not_null hvalue, holds_equals_of_not_null hvalue, hab]
  | within range => rw [holds_within, holds_within, hab]
  | anyOf _ ih =>
    rw [constantsPass, constantsPassAll_iff] at hpass
    rw [holds, holds]
    exact holdsAny_congr fun d hd => ih d hd (hpass d hd)

/-! ## Entries that look the same -/

/-- The criterion cannot tell bags with the entry `x` under its name from bags with `y`. -/
def Blind (c : Criterion) (x y : Option Value) : Prop :=
  ∀ a b : Bag, a[c.name]? = x → b[c.name]? = y → c.holds a = c.holds b

theorem On.blind_self (h : On c.name c) (x : Option Value) : c.Blind x x := by
  intro a b ha hb
  exact h.holds_congr (ha.trans hb.symm)

/-- Under names whose checks refuse null, a null looks like nothing. -/
theorem On.blind_of_present (h : On c.name c) (haccepted : c.Accepted names) {check : Check}
    (hcheck : names.checks[c.name]? = some (some check)) (hnull : check .null = false)
    (hxy : x.filter (fun v => !v.isNull) = y.filter fun v => !v.isNull) : c.Blind x y := by
  rintro a b rfl rfl
  exact h.holds_congr_of_present hnull (haccepted.2 check hcheck) hxy

end Criterion

/-! ## Criteria that are read -/

namespace Rule

variable {names : Names} {name : String} {doc : Json} {c : Criterion} {δ ε : Type}

/-- All parts of a criterion that is read are on the name of its spec. -/
theorem on_of_criterion? (doc : Json) (c : Criterion) (h : criterion? names name doc = .ok c) :
    c.On name := by
  induction doc using spec_induction generalizing c with
  | other doc hother =>
    obtain ⟨v, -, h⟩ := (criterion?_eq_ok_iff_constant hother).1 h
    rw [(Criterion.equals?_eq_ok_iff.1 h).1]
    exact .equals v
  | object fields ih =>
    rcases criterion?_eq_ok_iff_object.1 h with
      ⟨_, _, lower, upper, -, -, -, -, h⟩ | ⟨items, cs, -, hitems, hcs, h⟩
    · rw [(Criterion.within?_eq_ok_iff.1 h).1]
      exact .within ⟨lower, upper⟩
    · rw [(Criterion.anyOf?_eq_ok_iff.1 h).1]
      refine .anyOf fun d hd => ?_
      obtain ⟨item, hitem, hread⟩ := (Outcome.mem_of_mapM_eq_ok hcs).2 d hd
      exact ih items hitems item hitem d hread

/-- Every criterion of the rules is accepted, and all of its parts are on one name. -/
def WellRead (names : Names) (rules : List (Rule δ)) : Prop :=
  ∀ r ∈ rules, ∀ c ∈ r.criteria, c.On c.name ∧ c.Accepted names

theorem wellRead_of_listOfJson? {rules : List (Rule Json.Fields)}
    (h : listOfJson? names doc = .ok rules) : WellRead names rules := by
  intro r hr c hc
  rw [listOfJson?] at h
  split at h
  · cases h
  · obtain ⟨ruleDoc, -, hrule⟩ := (Outcome.mem_of_mapM_eq_ok h).2 r hr
    obtain ⟨-, specs, -, -, hcriteria, -⟩ := ofJson?_eq_ok_iff.1 hrule
    obtain ⟨⟨name, spec⟩, -, hread⟩ := (Outcome.mem_of_mapM_eq_ok hcriteria).2 c hc
    obtain ⟨hname, haccepted⟩ := accepted_of_criterion? hread
    refine ⟨?_, haccepted⟩
    rw [hname]
    exact on_of_criterion? spec c hread

/-- Reading the data of rules leaves their criteria alone. -/
theorem WellRead.of_criteria {raw : List (Rule δ)} {rules : List (Rule ε)} (h : WellRead names raw)
    (hrules : ∀ r ∈ rules, ∃ r' ∈ raw, r.criteria = r'.criteria) : WellRead names rules := by
  intro r hr c hc
  obtain ⟨r', hr', hcriteria⟩ := hrules r hr
  rw [hcriteria] at hc
  exact h r' hr' c hc

end Rule

end ShipEmissions
