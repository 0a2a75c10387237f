import ShipEmissions.Proofs.ConfigErrors

/-!
# The language of rules

What the text of a rule has to look like, and what it says about bags, without the criteria that it
is read into. A spec is what a rule demands of one attribute: a constant, an interval, or
alternatives that are specs themselves, to any depth.

* `Rule.WellFormed`: the specs that may stand under a name.
* `Rule.Demands`: the bags of which a spec holds.
* `criterion?_eq_ok_iff_constant`, `criterion?_eq_ok_iff_object`: what a spec is read into.
* `exists_criterion?_iff`, `holds_iff_demands`: what is read are the well-formed specs, and they are
  read as what they say.
* `criterion?_agree`, `ofJson?_agree`: they are read as the same under every registry that allows
  them.
* `ofJson?_reads`: whole rules, with their data.
-/

namespace ShipEmissions

open Outcome (Agree mem_of_mapM_eq_ok exists_mapM_eq_ok_iff)

/-! ## Values and names -/

/-- Values that count as equal: numbers if they compare so, all others if they are the same. -/
inductive Value.Same : Value → Value → Prop
  | null : Same .null .null
  | boolean (b : Bool) : Same (.boolean b) (.boolean b)
  | number {x y : Float} (h : (x == y) = true) : Same (.number x) (.number y)
  | text (s : String) : Same (.text s) (.text s)

theorem Value.beq_iff_same {v w : Value} : (v == w) = true ↔ v.Same w := by
  constructor
  · intro h
    cases v with
    | null =>
      cases w with
      | null => exact .null
      | _ => cases h
    | boolean b =>
      cases w with
      | boolean b' =>
        have hb : (b == b') = true := h
        rw [eq_of_beq hb]
        exact .boolean b'
      | _ => cases h
    | number x =>
      cases w with
      | number y => exact .number h
      | _ => cases h
    | text s =>
      cases w with
      | text s' =>
        have hs : (s == s') = true := h
        rw [eq_of_beq hs]
        exact .text s'
      | _ => cases h
  · intro h
    cases h with
    | null => rfl
    | boolean b => exact beq_self_eq_true b
    | number h => exact h
    | text s => exact beq_self_eq_true s

/-- The constant passes the check of the name, if the name has one. -/
def Names.Allows (names : Names) (name : String) (v : Value) : Prop :=
  ∀ check, names.checks[name]? = some (some check) → check v = true

/-! ## Criteria -/

namespace Criterion

variable {names : Names} {name : String} {bag : Bag} {c : Criterion} {cs : List Criterion}

theorem holdsAny_iff : holdsAny bag cs = true ↔ ∃ c ∈ cs, c.holds bag = true := by
  induction cs with
  | nil => simp [holdsAny]
  | cons c cs ih => rw [holdsAny, Bool.or_eq_true, ih, List.exists_mem_cons_iff]

theorem constantsPassAll_iff {check : Check} :
    constantsPassAll check cs = true ↔ ∀ c ∈ cs, c.constantsPass check = true := by
  induction cs with
  | nil => simp [constantsPassAll]
  | cons c cs ih => rw [constantsPassAll, Bool.and_eq_true, ih, List.forall_mem_cons]

/-- The name of the criterion is registered, and its constants pass the check of the name. -/
def Accepted (names : Names) (c : Criterion) : Prop :=
  names.isRegistered c.name = true ∧
    ∀ check, names.checks[c.name]? = some (some check) → c.constantsPass check = true

theorem accept?_eq_ok_iff {c' : Criterion} :
    accept? names c = .ok c' ↔ c' = c ∧ Accepted names c := by
  unfold accept? Accepted
  rw [Names.isRegistered, Std.ExtTreeMap.contains_eq_isSome_getElem?]
  cases hcheck : names.checks[c.name]? with
  | none => simp
  | some check =>
    cases check with
    | none => simpa using eq_comm
    | some check =>
      by_cases hpass : c.constantsPass check = true
      · simpa [hpass] using eq_comm
      · simp [hpass]

theorem equals?_eq_ok_iff {v : Value} :
    equals? names name v = .ok c ↔
      c = .equals name v ∧ names.isRegistered name = true ∧ names.Allows name v := by
  rw [equals?, accept?_eq_ok_iff]
  rfl

theorem within?_eq_ok_iff {lower upper : Float} :
    within? names name lower upper = .ok c ↔
      c = .within name ⟨lower, upper⟩ ∧ names.isRegistered name = true ∧
        (lower == lower) = true ∧ (upper == upper) = true := by
  have haccepted : Accepted names (.within name ⟨lower, upper⟩) ↔ names.isRegistered name = true :=
    and_iff_left fun check _ => by rw [constantsPass]
  rw [within?, Interval.of?]
  by_cases hbounds : (lower == lower && upper == upper) = true
  · rw [if_pos hbounds]
    rw [Bool.and_eq_true] at hbounds
    show accept? names (.within name ⟨lower, upper⟩) = .ok c ↔ _
    rw [accept?_eq_ok_iff, haccepted, and_iff_left hbounds]
  · rw [if_neg hbounds]
    rw [Bool.and_eq_true] at hbounds
    constructor
    · rintro ⟨⟩
    · rintro ⟨-, -, hnumbers⟩
      exact absurd hnumbers hbounds

theorem anyOf?_eq_ok_iff :
    anyOf? names name cs = .ok c ↔
      c = .anyOf name cs ∧ (∀ c ∈ cs, c.name = name) ∧ Accepted names (.anyOf name cs) := by
  rw [anyOf?]
  by_cases hnames : ∀ c ∈ cs, c.name = name
  · rw [if_pos (by simpa using hnames), accept?_eq_ok_iff, and_iff_right hnames]
  · rw [if_neg (by simpa using hnames)]
    simp [hnames]

/-- Alternatives are accepted if each is, and the name is registered. -/
theorem accepted_anyOf_iff (hnames : ∀ c ∈ cs, c.name = name) :
    Accepted names (.anyOf name cs) ↔
      names.isRegistered name = true ∧ ∀ c ∈ cs, Accepted names c := by
  have hall : (∀ check, names.checks[name]? = some (some check) →
      constantsPassAll check cs = true) ↔
        ∀ c ∈ cs, ∀ check, names.checks[c.name]? = some (some check) →
          c.constantsPass check = true := by
    constructor
    · intro h c hc check hcheck
      rw [hnames c hc] at hcheck
      exact constantsPassAll_iff.1 (h check hcheck) c hc
    · intro h check hcheck
      rw [constantsPassAll_iff]
      intro c hc
      exact h c hc check (by rwa [hnames c hc])
  constructor
  · rintro ⟨hname, hpass⟩
    refine ⟨hname, fun c hc => ⟨?_, ?_⟩⟩
    · rw [hnames c hc]
      exact hname
    · exact hall.1 hpass c hc
  · rintro ⟨hname, hcs⟩
    exact ⟨hname, hall.2 fun c hc => (hcs c hc).2⟩

end Criterion

/-! ## Specs -/

namespace Rule

variable {names : Names} {name : String} {doc : Json} {fields : Json.Fields} {bag : Bag}
  {c : Criterion}

/-- The specs that may stand under a name: constants that the name allows, intervals between
numbers, and alternatives that are well formed. Whatever else stands beside the bounds of an
interval is ignored. -/
inductive WellFormed (names : Names) (name : String) : Json → Prop
  | constant {doc : Json} {v : Value} (hdoc : Value.ofJson? doc = some v)
      (hallowed : names.Allows name v) : WellFormed names name doc
  | interval {fields : Json.Fields} {ge lt : Json} {lower upper : Float}
      (hge : fields.lookup "ge" = some ge) (hlt : fields.lookup "lt" = some lt)
      (hlower : ge.number? = some lower) (hupper : lt.number? = some upper) :
      WellFormed names name (.object fields)
  | alternatives {fields : Json.Fields} {items : List Json}
      (hbounds : fields.lookup "ge" = none ∨ fields.lookup "lt" = none)
      (hitems : fields.lookup "any_of" = some (.array items))
      (hall : ∀ item ∈ items, WellFormed names name item) : WellFormed names name (.object fields)

/-- The bags of which a spec under a name holds: those with an equal value there, with a number
between the bounds, or such that one of the alternatives holds. -/
inductive Demands (name : String) (bag : Bag) : Json → Prop
  | constant {doc : Json} {v w : Value} (hdoc : Value.ofJson? doc = some v)
      (hbag : bag[name]? = some w) (hsame : w.Same v) : Demands name bag doc
  | interval {fields : Json.Fields} {ge lt : Json} {lower upper x : Float}
      (hge : fields.lookup "ge" = some ge) (hlt : fields.lookup "lt" = some lt)
      (hlower : ge.number? = some lower) (hupper : lt.number? = some upper)
      (hbag : bag[name]? = some (.number x)) (hmem : lower ≤ x ∧ x < upper) :
      Demands name bag (.object fields)
  | alternative {fields : Json.Fields} {items : List Json} {item : Json}
      (hbounds : fields.lookup "ge" = none ∨ fields.lookup "lt" = none)
      (hitems : fields.lookup "any_of" = some (.array items))
      (hitem : item ∈ items) (h : Demands name bag item) : Demands name bag (.object fields)

/-! ### Reading specs -/

theorem criteria?_eq_mapM (docs : List Json) :
    criteria? names name docs = docs.mapM (criterion? names name) := by
  induction docs with
  | nil => rfl
  | cons doc docs ih =>
    rw [criteria?, List.mapM_cons, ih]
    cases criterion? names name doc with
    | error e => rfl
    | ok c => cases docs.mapM (criterion? names name) <;> rfl

/-- The first field `any_of` counts, and it has to be a list. -/
theorem alternatives?_eq (fields : Json.Fields) :
    alternatives? names name fields =
      match fields.lookup "any_of" with
      | some (.array items) => some (items.mapM (criterion? names name))
      | _ => none := by
  induction fields with
  | nil => rfl
  | cons field fields ih =>
    obtain ⟨key, value⟩ := field
    rw [List.lookup_cons]
    by_cases hkey : key = "any_of"
    · subst hkey
      cases value with
      | array items =>
        rw [alternatives?, criteria?_eq_mapM]
        rfl
      | _ =>
        rw [alternatives?]
        · rfl
        · simp
    · have hne : ("any_of" == key) = false := by simpa using Ne.symm hkey
      have hne' : (key == "any_of") = false := by simpa using hkey
      cases value with
      | array items =>
        rw [alternatives?, hne, hne', ih]
        rfl
      | _ =>
        rw [alternatives?, hne, hne', ih]
        · rfl
        · simp

/-- A statement about specs, by induction on the alternatives in them. -/
theorem spec_induction {motive : Json → Prop}
    (other : ∀ doc, (∀ fields, doc ≠ .object fields) → motive doc)
    (object : ∀ fields, (∀ items, fields.lookup "any_of" = some (.array items) →
      ∀ item ∈ items, motive item) → motive (.object fields)) : ∀ doc, motive doc
  | .object fields =>
    object fields fun items hitems item hitem => spec_induction other object item
  | .null => other _ (by simp)
  | .boolean _ => other _ (by simp)
  | .number _ => other _ (by simp)
  | .text _ => other _ (by simp)
  | .array _ => other _ (by simp)
termination_by doc => sizeOf doc
decreasing_by
  have hfield := List.sizeOf_lt_of_mem (Json.mem_of_lookup hitems)
  have hitem := List.sizeOf_lt_of_mem hitem
  simp only [Prod.mk.sizeOf_spec, Json.array.sizeOf_spec, Json.object.sizeOf_spec] at *
  omega

/-- What is no object is read as a constant. -/
theorem criterion?_eq_ok_iff_constant (hdoc : ∀ fields, doc ≠ .object fields) :
    criterion? names name doc = .ok c ↔
      ∃ v, Value.ofJson? doc = some v ∧ Criterion.equals? names name v = .ok c := by
  rw [criterion?]
  · cases Value.ofJson? doc <;> simp
  · exact hdoc

/-- An object is read as an interval if it has both bounds, and as alternatives otherwise. -/
theorem criterion?_eq_ok_iff_object :
    criterion? names name (.object fields) = .ok c ↔
      (∃ ge lt lower upper, fields.lookup "ge" = some ge ∧ fields.lookup "lt" = some lt ∧
        ge.number? = some lower ∧ lt.number? = some upper ∧
        Criterion.within? names name lower upper = .ok c) ∨
      ∃ items cs, (fields.lookup "ge" = none ∨ fields.lookup "lt" = none) ∧
        fields.lookup "any_of" = some (.array items) ∧
        items.mapM (criterion? names name) = .ok cs ∧
        Criterion.anyOf? names name cs = .ok c := by
  rw [criterion?, alternatives?_eq]
  constructor
  · intro h
    split at h
    · next ge lt hge hlt =>
      split at h
      · next lower upper hlower hupper =>
        exact .inl ⟨ge, lt, lower, upper, hge, hlt, hlower, hupper, h⟩
      · cases h
    · next hbounds =>
      split at h
      · next criteria hcriteria =>
        split at hcriteria
        · next items hitems =>
          cases hcriteria
          obtain ⟨cs, hcs, h⟩ := Outcome.bind_eq_ok.1 h
          refine .inr ⟨items, cs, ?_, hitems, hcs, h⟩
          cases hge : fields.lookup "ge" with
          | none => exact .inl rfl
          | some ge =>
            cases hlt : fields.lookup "lt" with
            | none => exact .inr rfl
            | some lt => exact absurd hlt (hbounds ge lt hge)
        · cases hcriteria
      · cases h
  · rintro (⟨ge, lt, lower, upper, hge, hlt, hlower, hupper, h⟩ |
      ⟨items, cs, hbounds, hitems, hcs, h⟩)
    · rw [hge, hlt]
      dsimp only
      rw [hlower, hupper]
      exact h
    · rw [hitems]
      split
      · next hge hlt =>
        rw [hge, hlt] at hbounds
        simp at hbounds
      · show (items.mapM (criterion? names name)).bind _ = _
        rw [hcs]
        exact h

/-- A criterion that has been read is one on the name of its spec, and it is accepted. -/
theorem accepted_of_criterion? (h : criterion? names name doc = .ok c) :
    c.name = name ∧ c.Accepted names := by
  by_cases hdoc : ∃ fields, doc = .object fields
  · obtain ⟨fields, rfl⟩ := hdoc
    rcases criterion?_eq_ok_iff_object.1 h with
      ⟨_, _, lower, upper, -, -, -, -, h⟩ | ⟨_, cs, -, -, -, h⟩
    · obtain ⟨rfl, hname, -⟩ := Criterion.within?_eq_ok_iff.1 h
      refine ⟨rfl, hname, fun check _ => ?_⟩
      rw [Criterion.constantsPass]
    · obtain ⟨rfl, -, haccepted⟩ := Criterion.anyOf?_eq_ok_iff.1 h
      exact ⟨rfl, haccepted⟩
  · obtain ⟨v, -, h⟩ := (criterion?_eq_ok_iff_constant (not_exists.1 hdoc)).1 h
    obtain ⟨rfl, haccepted⟩ := Criterion.equals?_eq_ok_iff.1 h
    exact ⟨rfl, haccepted⟩

/-- The specs that are read are the well-formed ones, under names that are registered. -/
theorem exists_criterion?_iff (doc : Json) (hdoc : doc.isFinite = true) :
    (∃ c, criterion? names name doc = .ok c) ↔
      names.isRegistered name = true ∧ WellFormed names name doc := by
  induction doc using spec_induction with
  | other doc hother =>
    constructor
    · rintro ⟨c, h⟩
      obtain ⟨v, hv, h⟩ := (criterion?_eq_ok_iff_constant hother).1 h
      obtain ⟨-, hname, hallowed⟩ := Criterion.equals?_eq_ok_iff.1 h
      exact ⟨hname, .constant hv hallowed⟩
    · rintro ⟨hname, hwell⟩
      cases hwell with
      | constant hv hallowed =>
        exact ⟨_, (criterion?_eq_ok_iff_constant hother).2
          ⟨_, hv, Criterion.equals?_eq_ok_iff.2 ⟨rfl, hname, hallowed⟩⟩⟩
      | interval => exact absurd rfl (hother _)
      | alternatives => exact absurd rfl (hother _)
  | object fields ih =>
    have hitem : ∀ items, fields.lookup "any_of" = some (.array items) → ∀ item ∈ items,
        ((∃ c, criterion? names name item = .ok c) ↔
          names.isRegistered name = true ∧ WellFormed names name item) := by
      intro items hitems item hitem
      have hfinite : (Json.array items).isFinite = true := Json.isFinite_of_lookup hdoc hitems
      exact ih items hitems item hitem (Json.isFiniteItems_iff.1 hfinite item hitem)
    constructor
    · rintro ⟨c, h⟩
      have hname := (accepted_of_criterion? h).2.1
      rw [(accepted_of_criterion? h).1] at hname
      refine ⟨hname, ?_⟩
      rcases criterion?_eq_ok_iff_object.1 h with
        ⟨ge, lt, lower, upper, hge, hlt, hlower, hupper, -⟩ | ⟨items, cs, hbounds, hitems, hcs, -⟩
      · exact .interval hge hlt hlower hupper
      · refine .alternatives hbounds hitems fun item hmem => ?_
        have hread := exists_mapM_eq_ok_iff.1 ⟨cs, hcs⟩ item hmem
        exact ((hitem items hitems item hmem).1 hread).2
    · rintro ⟨hname, hwell⟩
      cases hwell with
      | constant hv => cases hv
      | @interval _ _ _ lower upper hge hlt hlower hupper =>
        have hfields : Json.isFiniteFields fields = true := hdoc
        have hself := Json.beq_self_of_number? (Json.isFinite_of_lookup hfields hge) hlower
        have hself' := Json.beq_self_of_number? (Json.isFinite_of_lookup hfields hlt) hupper
        exact ⟨_, criterion?_eq_ok_iff_object.2 (.inl ⟨_, _, _, _, hge, hlt, hlower, hupper,
          Criterion.within?_eq_ok_iff.2 ⟨rfl, hname, hself, hself'⟩⟩)⟩
      | @alternatives _ items hbounds hitems hall =>
        have hread : ∀ item ∈ items, ∃ c, criterion? names name item = .ok c := fun item hmem =>
          (hitem items hitems item hmem).2 ⟨hname, hall item hmem⟩
        obtain ⟨cs, hcs⟩ := exists_mapM_eq_ok_iff.2 hread
        have haccepted : ∀ c ∈ cs, c.name = name ∧ c.Accepted names := by
          intro c hc
          obtain ⟨item, -, hitem⟩ := (mem_of_mapM_eq_ok hcs).2 c hc
          exact accepted_of_criterion? hitem
        have hnames : ∀ c ∈ cs, c.name = name := fun c hc => (haccepted c hc).1
        exact ⟨_, criterion?_eq_ok_iff_object.2 (.inr ⟨items, cs, hbounds, hitems, hcs,
          Criterion.anyOf?_eq_ok_iff.2 ⟨rfl, hnames, (Criterion.accepted_anyOf_iff hnames).2
            ⟨hname, fun c hc => (haccepted c hc).2⟩⟩⟩)⟩

/-! ### What specs say -/

/-- A criterion holds of the bags of which its spec does. -/
theorem holds_iff_demands (doc : Json) (c : Criterion) (h : criterion? names name doc = .ok c)
    (bag : Bag) : c.holds bag = true ↔ Demands name bag doc := by
  induction doc using spec_induction generalizing c with
  | other doc hother =>
    obtain ⟨v, hv, h⟩ := (criterion?_eq_ok_iff_constant hother).1 h
    obtain ⟨rfl, -⟩ := Criterion.equals?_eq_ok_iff.1 h
    rw [Criterion.holds]
    constructor
    · intro hholds
      cases hbag : bag[name]? with
      | none => rw [hbag] at hholds; cases hholds
      | some w =>
        rw [hbag] at hholds
        exact .constant hv hbag (Value.beq_iff_same.1 hholds)
    · intro hdemands
      cases hdemands with
      | constant hdoc hbag hsame =>
        cases hv.symm.trans hdoc
        rw [hbag]
        exact Value.beq_iff_same.2 hsame
      | interval => exact absurd rfl (hother _)
      | alternative => exact absurd rfl (hother _)
  | object fields ih =>
    rcases criterion?_eq_ok_iff_object.1 h with
      ⟨ge, lt, lower, upper, hge, hlt, hlower, hupper, h⟩ | ⟨items, cs, hbounds, hitems, hcs, h⟩
    · obtain ⟨rfl, -⟩ := Criterion.within?_eq_ok_iff.1 h
      rw [Criterion.holds]
      constructor
      · intro hholds
        obtain ⟨x, hx, hmem⟩ := (Option.any_eq_true _ _).1 hholds
        obtain ⟨v, hbag, hv⟩ := Option.bind_eq_some_iff.1 hx
        cases v with
        | number y =>
          cases hv
          exact .interval hge hlt hlower hupper hbag (of_decide_eq_true hmem)
        | _ => cases hv
      · intro hdemands
        cases hdemands with
        | constant hdoc => cases hdoc
        | interval hge' hlt' hlower' hupper' hbag hmem =>
          cases hge.symm.trans hge'
          cases hlt.symm.trans hlt'
          cases hlower.symm.trans hlower'
          cases hupper.symm.trans hupper'
          rw [hbag]
          exact decide_eq_true hmem
        | alternative hbounds' =>
          rw [hge, hlt] at hbounds'
          simp at hbounds'
    · obtain ⟨rfl, -⟩ := Criterion.anyOf?_eq_ok_iff.1 h
      rw [Criterion.holds, Criterion.holdsAny_iff]
      constructor
      · rintro ⟨c, hc, hholds⟩
        obtain ⟨item, hitem, hread⟩ := (mem_of_mapM_eq_ok hcs).2 c hc
        exact .alternative hbounds hitems hitem ((ih items hitems item hitem c hread).1 hholds)
      · intro hdemands
        cases hdemands with
        | constant hdoc => cases hdoc
        | interval hge hlt =>
          rw [hge, hlt] at hbounds
          simp at hbounds
        | alternative _ hitems' hitem hdemands =>
          cases hitems.symm.trans hitems'
          obtain ⟨c, hc, hread⟩ := (mem_of_mapM_eq_ok hcs).1 _ hitem
          exact ⟨c, hc, (ih items hitems _ hitem c hread).2 hdemands⟩

/-! ### Several registries -/

/-- What is registered decides whether a spec is read, and not what it is read into. -/
theorem criterion?_agree (names names' : Names) (name : String) (doc : Json) :
    Agree (criterion? names name doc) (criterion? names' name doc) := by
  induction doc using spec_induction with
  | other doc hother =>
    intro c c' h h'
    obtain ⟨v, hv, h⟩ := (criterion?_eq_ok_iff_constant hother).1 h
    obtain ⟨v', hv', h'⟩ := (criterion?_eq_ok_iff_constant hother).1 h'
    cases hv.symm.trans hv'
    rw [(Criterion.equals?_eq_ok_iff.1 h).1, (Criterion.equals?_eq_ok_iff.1 h').1]
  | object fields ih =>
    intro c c' h h'
    rcases criterion?_eq_ok_iff_object.1 h with
      ⟨ge, lt, lower, upper, hge, hlt, hlower, hupper, h⟩ | ⟨items, cs, hbounds, hitems, hcs, h⟩
    · rcases criterion?_eq_ok_iff_object.1 h' with
        ⟨ge', lt', lower', upper', hge', hlt', hlower', hupper', h'⟩ | ⟨_, _, hbounds, _⟩
      · cases hge.symm.trans hge'
        cases hlt.symm.trans hlt'
        cases hlower.symm.trans hlower'
        cases hupper.symm.trans hupper'
        rw [(Criterion.within?_eq_ok_iff.1 h).1, (Criterion.within?_eq_ok_iff.1 h').1]
      · rw [hge, hlt] at hbounds
        simp at hbounds
    · rcases criterion?_eq_ok_iff_object.1 h' with
        ⟨_, _, _, _, hge, hlt, _⟩ | ⟨items', cs', -, hitems', hcs', h'⟩
      · rw [hge, hlt] at hbounds
        simp at hbounds
      · cases hitems.symm.trans hitems'
        cases Agree.mapM (ih items hitems) cs cs' hcs hcs'
        rw [(Criterion.anyOf?_eq_ok_iff.1 h).1, (Criterion.anyOf?_eq_ok_iff.1 h').1]

/-! ## Rules -/

/-- A rule is an object with an object of specs; all other fields are its data. -/
theorem ofJson?_eq_ok_iff {r : Rule Json.Fields} :
    ofJson? names doc = .ok r ↔
      ∃ fields specs, doc = .object fields ∧
        fields.lookup "match_criteria" = some (.object specs) ∧
        (specs.mapM fun (name, spec) => criterion? names name spec) = .ok r.criteria ∧
        r.data = fields.filter fun (key, _) => key != "match_criteria" := by
  constructor
  · intro h
    rw [ofJson?] at h
    split at h
    · cases h
    · next fields hfields =>
      split at h
      · cases h
      · next specs hspecs =>
        obtain ⟨criteria, hcriteria, rfl⟩ := Outcome.map_eq_ok.1 h
        obtain ⟨spec, hlookup, hspec⟩ := Option.bind_eq_some_iff.1 hspecs
        rw [Json.fields?_eq_some_iff.1 hspec] at hlookup
        exact ⟨fields, specs, Json.fields?_eq_some_iff.1 hfields, hlookup, hcriteria, rfl⟩
  · rintro ⟨fields, specs, rfl, hlookup, hcriteria, hdata⟩
    rw [ofJson?, Json.fields?]
    dsimp only
    rw [criteriaKey, hlookup]
    refine Outcome.map_eq_ok.2 ⟨r.criteria, hcriteria, ?_⟩
    rw [← hdata]

theorem ofJson?_agree (names names' : Names) (doc : Json) :
    Agree (ofJson? names doc) (ofJson? names' doc) := by
  intro r r' h h'
  obtain ⟨fields, specs, rfl, hlookup, hcriteria, hdata⟩ := ofJson?_eq_ok_iff.1 h
  obtain ⟨fields', specs', hfields, hlookup', hcriteria', hdata'⟩ := ofJson?_eq_ok_iff.1 h'
  cases hfields
  cases hlookup.symm.trans hlookup'
  have hagree := Agree.mapM (fun field _ => criterion?_agree names names' field.1 field.2) _ _
    hcriteria hcriteria'
  cases r
  cases r'
  rw [Rule.mk.injEq]
  exact ⟨hagree, hdata.trans hdata'.symm⟩

theorem listOfJson?_agree (names names' : Names) (doc : Json) :
    Agree (listOfJson? names doc) (listOfJson? names' doc) := by
  rw [listOfJson?, listOfJson?]
  cases doc.items? with
  | none => exact .refl _
  | some docs => exact .mapM fun doc _ => ofJson?_agree names names' doc

theorem namedOfJson?_agree (names names' : Names) (doc : Json) :
    Agree (namedOfJson? names doc) (namedOfJson? names' doc) := by
  rw [namedOfJson?, namedOfJson?]
  cases doc.fields? with
  | none => exact .refl _
  | some fields =>
    exact .mapM fun field _ => (listOfJson?_agree names names' field.2).map fun rules =>
      (field.1, rules)

theorem isFinite_spec {specs : Json.Fields} {spec : Json}
    (hdoc : (Json.object fields).isFinite = true)
    (hspecs : fields.lookup "match_criteria" = some (.object specs))
    (hspec : (name, spec) ∈ specs) : spec.isFinite = true := by
  have hfinite : (Json.object specs).isFinite = true := Json.isFinite_of_lookup hdoc hspecs
  exact Json.isFiniteFields_iff.1 hfinite _ hspec

/-- A document is read as a rule iff it is an object whose criteria are an object of well-formed
specs under registered names. Every error says that the configuration is wrong. A rule that is read
matches the bags of which all its specs hold, and its data are all other fields as they are. -/
theorem ofJson?_reads (names : Names) (doc : Json) (hdoc : doc.isFinite = true) :
    ((∃ r, ofJson? names doc = .ok r) ↔
      ∃ fields specs, doc = .object fields ∧
        fields.lookup "match_criteria" = some (.object specs) ∧
        ∀ name spec, (name, spec) ∈ specs →
          names.isRegistered name = true ∧ WellFormed names name spec) ∧
    (∀ e, ofJson? names doc = .error e → e.kind = .configuration) ∧
    ∀ r, ofJson? names doc = .ok r →
      ∃ fields specs, doc = .object fields ∧
        fields.lookup "match_criteria" = some (.object specs) ∧
        (∀ bag, r.matchesBag bag = true ↔
          ∀ name spec, (name, spec) ∈ specs → Demands name bag spec) ∧
        r.data = fields.filter fun (key, _) => key != "match_criteria" := by
  refine ⟨?_, errors_ofJson? hdoc, ?_⟩
  · constructor
    · rintro ⟨r, h⟩
      obtain ⟨fields, specs, rfl, hlookup, hcriteria, -⟩ := ofJson?_eq_ok_iff.1 h
      refine ⟨fields, specs, rfl, hlookup, ?_⟩
      intro name spec hspec
      have hfinite := isFinite_spec hdoc hlookup hspec
      have hread := exists_mapM_eq_ok_iff.1 ⟨_, hcriteria⟩ (name, spec) hspec
      exact (exists_criterion?_iff spec hfinite).1 hread
    · rintro ⟨fields, specs, rfl, hlookup, hspecs⟩
      have hread : ∀ field ∈ specs, ∃ c, criterion? names field.1 field.2 = .ok c := by
        rintro ⟨name, spec⟩ hspec
        have hfinite := isFinite_spec hdoc hlookup hspec
        exact (exists_criterion?_iff spec hfinite).2 (hspecs name spec hspec)
      obtain ⟨criteria, hcriteria⟩ := exists_mapM_eq_ok_iff.2 hread
      exact ⟨⟨criteria, _⟩, ofJson?_eq_ok_iff.2 ⟨fields, specs, rfl, hlookup, hcriteria, rfl⟩⟩
  · intro r h
    obtain ⟨fields, specs, rfl, hlookup, hcriteria, hdata⟩ := ofJson?_eq_ok_iff.1 h
    refine ⟨fields, specs, rfl, hlookup, ?_, hdata⟩
    intro bag
    rw [matchesBag, List.all_eq_true]
    constructor
    · intro hall name spec hspec
      obtain ⟨c, hc, hread⟩ := (mem_of_mapM_eq_ok hcriteria).1 _ hspec
      exact (holds_iff_demands spec c hread bag).1 (hall c hc)
    · intro hall c hc
      obtain ⟨⟨name, spec⟩, hspec, hread⟩ := (mem_of_mapM_eq_ok hcriteria).2 c hc
      exact (holds_iff_demands spec c hread bag).2 (hall name spec hspec)

/-- What a rule for tugs demands: a length in an interval, and a width of one meter or of three to
six, with alternatives inside alternatives. -/
def tugSpecs : Json.Fields := [
  ("length", .object [("ge", .number (.integer 5)), ("lt", .number (.integer 25))]),
  ("ship_type", .text "tug"),
  ("width", .object [("any_of", .array [
    .number (.integer 1),
    .object [("any_of", .array [
      .object [("any_of", .array []), ("ge", .number (.integer 3)),
        ("lt", .number (.integer 6))]])]])])]

/-- A rule for tugs. -/
def tugRule : Json :=
  .object [("g_per_kwh", .number (.integer 12)), ("match_criteria", .object tugSpecs)]

/-- The rule for tugs is accepted, keeps its data and matches nothing but tugs. -/
theorem ofJson?_reads_tug : tugRule.isFinite = true ∧
    ∃ r, ofJson? .builtIn tugRule = .ok r ∧ r.data.map Prod.fst = ["g_per_kwh"] ∧
      ∀ bag, r.matchesBag bag = true →
        ∃ v, bag["ship_type"]? = some v ∧ v.Same (.text "tug") := by
  have hfinite : tugRule.isFinite = true := by decide +kernel
  obtain ⟨-, -, hmeans⟩ := ofJson?_reads .builtIn tugRule hfinite
  have hok : (ofJson? .builtIn tugRule).toBool = true := by decide +kernel
  cases hr : ofJson? .builtIn tugRule with
  | error e => rw [hr] at hok; cases hok
  | ok r =>
    obtain ⟨fields, specs, hfields, hspecs, hmatches, hdata⟩ := hmeans r hr
    cases hfields
    obtain rfl : tugSpecs = specs := by
      have hlookup : ([("g_per_kwh", .number (.integer 12)), ("match_criteria", .object tugSpecs)] :
        Json.Fields).lookup "match_criteria" = some (.object tugSpecs) := rfl
      cases hlookup.symm.trans hspecs
      rfl
    refine ⟨hfinite, r, rfl, by rw [hdata]; rfl, ?_⟩
    intro bag hbag
    have htype : ("ship_type", .text "tug") ∈ tugSpecs := by simp [tugSpecs]
    cases (hmatches bag).1 hbag _ _ htype with
    | constant hdoc hvalue hsame =>
      cases hdoc
      exact ⟨_, hvalue, hsame⟩

end Rule

end ShipEmissions
