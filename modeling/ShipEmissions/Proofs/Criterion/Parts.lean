import ShipEmissions.Proofs.Alike
import ShipEmissions.Proofs.Criterion

/-!
# Criteria by their parts

A criterion with alternatives is a tree, and all that counts are its leaves: constants and
intervals. None of them asks for an entry to be missing, and where the tree has been built under one
name, all of them ask about that name.

* `Criterion.PartOf`, `Criterion.IsLeaf`: the criteria in a criterion, and those without
  alternatives.
* `Criterion.holds_iff_leaf`: a criterion is met where one of its leaves is.
* `Criterion.Built`: the criteria that are built under a name.
* `Value.Alike`: values that no criterion tells apart.
* `Criterion.positive_flat_local`: criteria are positive, flat and local.
-/

namespace ShipEmissions

/-! ## Values that are alike -/

namespace Value

/-- Values that are the same or equal. -/
def Alike (v w : Value) : Prop := v = w ∨ (v == w) = true

variable {v w : Value}

/-- Values that are alike are the same, or numbers that are alike. -/
theorem Alike.cases (h : v.Alike w) :
    v = w ∨ ∃ x y, v = .number x ∧ w = .number y ∧ Scalar.Alike x y := by
  rcases h with h | h
  · exact .inl h
  · cases beq_iff_same.1 h with
    | null => exact .inl rfl
    | boolean b => exact .inl rfl
    | number h => exact .inr ⟨_, _, rfl, rfl, .of_beq h⟩
    | text s => exact .inl rfl

theorem Alike.beq_congr (h : v.Alike w) (value : Value) : (v == value) = (w == value) := by
  rcases h.cases with rfl | ⟨x, y, rfl, rfl, hxy⟩
  · rfl
  · cases value with
    | number z => exact Binary.beq_congr hxy (.refl z)
    | _ => rfl

/-- Numbers that are alike lie in the same intervals. -/
theorem Alike.mem_congr (h : v.Alike w) (range : Interval Float) :
    (v.number?.any fun x => range.Mem x) = w.number?.any fun x => range.Mem x := by
  rcases h.cases with rfl | ⟨x, y, rfl, rfl, hxy⟩
  · rfl
  · have hmem : range.Mem x ↔ range.Mem y :=
      and_congr (Binary.le_congr (.refl _) hxy) (Binary.lt_congr hxy (.refl _))
    exact decide_eq_decide.2 hmem

end Value

namespace Criterion

variable {names : Names} {name : String} {a b bag : Bag} {c d : Criterion}

/-! ## Trees -/

/-- A statement about criteria, by induction on their alternatives. -/
theorem tree_induction {motive : Criterion → Prop}
    (equals : ∀ name value, motive (.equals name value))
    (within : ∀ name range, motive (.within name range))
    (anyOf : ∀ name cs, (∀ c ∈ cs, motive c) → motive (.anyOf name cs)) : ∀ c, motive c
  | .equals name value => equals name value
  | .within name range => within name range
  | .anyOf name cs => anyOf name cs fun c _ => tree_induction equals within anyOf c
termination_by c => sizeOf c
decreasing_by
  rename_i hc
  have hlt := List.sizeOf_lt_of_mem hc
  rw [Criterion.anyOf.sizeOf_spec]
  omega

/-- A criterion itself, and all criteria in its alternatives. -/
inductive PartOf (d : Criterion) : Criterion → Prop
  | self : PartOf d d
  | inside {name : String} {cs : List Criterion} {c : Criterion} (hc : c ∈ cs) (h : PartOf d c) :
      PartOf d (.anyOf name cs)

/-- Criteria without alternatives. -/
inductive IsLeaf : Criterion → Prop
  | equals (name : String) (value : Value) : IsLeaf (.equals name value)
  | within (name : String) (range : Interval Float) : IsLeaf (.within name range)

/-- A criterion is met where one of its leaves is. -/
theorem holds_iff_leaf (c : Criterion) :
    c.holds bag = true ↔ ∃ d : Criterion, d.PartOf c ∧ d.IsLeaf ∧ d.holds bag = true := by
  induction c using tree_induction with
  | equals name value =>
    constructor
    · intro h
      exact ⟨_, .self, .equals name value, h⟩
    · rintro ⟨d, hpart, -, h⟩
      cases hpart
      exact h
  | within name range =>
    constructor
    · intro h
      exact ⟨_, .self, .within name range, h⟩
    · rintro ⟨d, hpart, -, h⟩
      cases hpart
      exact h
  | anyOf name cs ih =>
    rw [holds, holdsAny_iff]
    constructor
    · rintro ⟨c, hc, h⟩
      obtain ⟨d, hpart, hleaf, hd⟩ := (ih c hc).1 h
      exact ⟨d, .inside hc hpart, hleaf, hd⟩
    · rintro ⟨d, hpart, hleaf, hd⟩
      cases hpart with
      | self => cases hleaf
      | inside hc hpart => exact ⟨_, hc, (ih _ hc).2 ⟨d, hpart, hleaf, hd⟩⟩

/-! ## Criteria on one name -/

theorem On.name_eq (h : On name c) : c.name = name := by
  cases h <;> rfl

/-- The parts of a criterion on one name are on that name. -/
theorem On.part (h : On name c) (hpart : d.PartOf c) : On name d := by
  induction hpart with
  | self => exact h
  | inside hc _ ih =>
    cases h with
    | anyOf hcs => exact ih (hcs _ hc)

/-- Bags with entries under a name that are alike, or with none, meet the criteria on that name
alike. -/
theorem On.holds_congr_of_alike (h : On name c) (hab : Option.Rel Value.Alike a[name]? b[name]?) :
    c.holds a = c.holds b := by
  induction h with
  | equals value =>
    rw [holds, holds]
    generalize a[name]? = x at hab
    generalize b[name]? = y at hab
    cases hab with
    | none => rfl
    | some h => exact h.beq_congr value
  | within range =>
    rw [holds, holds]
    generalize a[name]? = x at hab
    generalize b[name]? = y at hab
    cases hab with
    | none => rfl
    | some h => exact h.mem_congr range
  | anyOf _ ih =>
    rw [holds, holds]
    exact holdsAny_congr ih

/-- The criteria that are built under a name, step by step or by reading a spec. The names that are
registered may be others at every step, and alternatives may have been built under any name. -/
inductive Built : String → Criterion → Prop
  | equals {names : Names} {name : String} {value : Value} {c : Criterion}
      (h : equals? names name value = .ok c) : Built name c
  | within {names : Names} {name : String} {lower upper : Float} {c : Criterion}
      (h : within? names name lower upper = .ok c) : Built name c
  | anyOf {names : Names} {name : String} {cs : List Criterion} {c : Criterion}
      (under : Criterion → String) (hcs : ∀ d ∈ cs, Built (under d) d)
      (h : anyOf? names name cs = .ok c) : Built name c
  | read {names : Names} {name : String} {doc : Json} {c : Criterion}
      (h : Rule.criterion? names name doc = .ok c) : Built name c

/-- Only the names of the alternatives themselves are checked, but those of their alternatives have
been checked before. -/
theorem Built.on (h : Built name c) : On name c := by
  induction h with
  | equals h =>
    rw [(equals?_eq_ok_iff.1 h).1]
    exact .equals _
  | within h =>
    rw [(within?_eq_ok_iff.1 h).1]
    exact .within _
  | anyOf under _ h ih =>
    obtain ⟨rfl, hnames, -⟩ := anyOf?_eq_ok_iff.1 h
    refine .anyOf fun d hd => ?_
    have hname := (ih d hd).name_eq.symm.trans (hnames d hd)
    rw [← hname]
    exact ih d hd
  | read h => exact Rule.on_of_criterion? _ _ h

/-! ## What criteria are -/

/-- Criteria and rules are positive: what a bag meets is met by every bag that keeps its entries.
Criteria that are built under a name are flat and local: all their parts are on the name, they are
met where one of their leaves is, and bags with entries under the name that are alike, or with none,
meet them alike. -/
theorem positive_flat_local :
    (∀ small large : Bag, small.Within large →
      (∀ c : Criterion, c.holds small = true → c.holds large = true) ∧
        ∀ (δ : Type) (r : Rule δ), r.matchesBag small = true → r.matchesBag large = true) ∧
      ∀ (name : String) (c : Criterion), Built name c →
        (∀ d : Criterion, d.PartOf c → d.name = name) ∧
          (∀ bag, c.holds bag = true ↔ ∃ d : Criterion, d.PartOf c ∧ d.IsLeaf ∧
            d.holds bag = true) ∧
          ∀ a b : Bag, Option.Rel Value.Alike a[name]? b[name]? → c.holds a = c.holds b := by
  constructor
  · intro small large h
    exact ⟨fun c => c.holds_of_within h, fun _ _ => Rule.matchesBag_of_within h⟩
  · intro name c h
    exact ⟨fun d hd => (h.on.part hd).name_eq, fun bag => c.holds_iff_leaf,
      fun a b hab => h.on.holds_congr_of_alike hab⟩

/-- A width of one meter or, one level deeper, of three to six. -/
def widthSpec : Json :=
  .object [("any_of", .array [
    .number (.integer 1),
    .object [("any_of", .array [
      .object [("ge", .number (.integer 3)), ("lt", .number (.integer 6))]])]])]

/-- A bag that meets the criterion for widths goes on meeting it with a length beside the width, and
it does so for one of the leaves, which is on the width. -/
theorem positive_flat_local_width :
    let narrow : Bag := .ofList [("width", .number 4)]
    let long : Bag := Bag.overlay (.ofList [("length", .number 40)]) narrow
    narrow.Within long ∧ ∃ c : Criterion, Rule.criterion? .builtIn "width" widthSpec = .ok c ∧
      c.holds narrow = true ∧ c.holds long = true ∧
      ∃ d : Criterion, d.PartOf c ∧ d.IsLeaf ∧ d.name = "width" ∧ d.holds narrow = true := by
  intro narrow long
  obtain ⟨hpositive, hflat⟩ := positive_flat_local
  have hwithin : narrow.Within long := Bag.within_overlay _ narrow
  have hmet : ((Rule.criterion? .builtIn "width" widthSpec).toOption.any fun c =>
      c.holds narrow) = true := by
    decide +kernel
  cases hread : Rule.criterion? .builtIn "width" widthSpec with
  | error e => rw [hread] at hmet; cases hmet
  | ok c =>
    rw [hread] at hmet
    have hc : c.holds narrow = true := hmet
    obtain ⟨hnames, hleaf, -⟩ := hflat "width" c (.read hread)
    obtain ⟨d, hpart, hd, hholds⟩ := (hleaf narrow).1 hc
    exact ⟨hwithin, c, rfl, hc, (hpositive narrow long hwithin).1 c hc, d, hpart, hd,
      hnames d hpart, hholds⟩

end Criterion

end ShipEmissions
