import ShipEmissions.Pollutants
import ShipEmissions.Proofs.Exact

/-!
# Amounts of pollutants over the real numbers

Every operation on maps of pollutants says which pollutants there are and how much there is of each.
A map is these two. It is not the amounts alone, as a pollutant may be listed with an amount of
zero.

* `mem_add`, `mem_total`, `mem_adjust`, `mem_scale`: which pollutants an operation lists.
* `amount_add`, `amount_total`, `amount_adjust`, `amount_scale`: how much there is of each.
* `ext_amount`: maps are equal if they list the same pollutants with the same amounts.
-/

namespace ShipEmissions

namespace Pollutants

/-! ## Which pollutants there are -/

section

variable {α : Type} [Scalar α] {a b factors : Pollutants α} {maps : List (Pollutants α)} {x : α}
  {p : String}

@[simp] theorem mem_add : p ∈ a.add b ↔ p ∈ a ∨ p ∈ b := by
  rw [add, Std.ExtTreeMap.mem_union_iff, Std.ExtTreeMap.mem_map]

theorem mem_foldl_add : p ∈ maps.foldl add a ↔ p ∈ a ∨ ∃ b ∈ maps, p ∈ b := by
  induction maps generalizing a with
  | nil => simp
  | cons b maps ih => rw [List.foldl_cons, ih, mem_add, or_assoc, List.exists_mem_cons_iff]

@[simp] theorem mem_total : p ∈ total maps ↔ ∃ b ∈ maps, p ∈ b := by
  rw [total, mem_foldl_add]
  exact or_iff_right Std.ExtTreeMap.not_mem_empty

@[simp] theorem mem_adjust : p ∈ a.adjust factors ↔ p ∈ a := Std.ExtTreeMap.mem_map

@[simp] theorem mem_scale : p ∈ a.scale x ↔ p ∈ a := Std.ExtTreeMap.mem_map

end

/-! ## How much there is -/

variable {a b factors : Pollutants ℝ} {maps : List (Pollutants ℝ)} {x : ℝ} {p : String}

/-- How much there is of a pollutant. There is nothing of one that is not listed. -/
noncomputable def amount (a : Pollutants ℝ) (p : String) : ℝ := a.getD p 0

theorem amount_of_getElem? (h : a[p]? = some x) : a.amount p = x := by
  rw [amount, Std.ExtTreeMap.getD_eq_getD_getElem?, h, Option.getD_some]

theorem amount_of_not_mem (h : p ∉ a) : a.amount p = 0 :=
  Std.ExtTreeMap.getD_eq_fallback h

theorem getElem?_of_mem (h : p ∈ a) : a[p]? = some (a.amount p) := by
  rw [Std.ExtTreeMap.getElem?_eq_some_getElem h, amount, Std.ExtTreeMap.getElem_eq_getD 0]

/-- Maps are equal if they list the same pollutants with the same amounts. -/
theorem ext_amount (hmem : ∀ p, p ∈ a ↔ p ∈ b) (hamount : ∀ p, a.amount p = b.amount p) :
    a = b := by
  apply Std.ExtTreeMap.ext_getElem?
  intro p
  by_cases h : p ∈ a
  · rw [getElem?_of_mem h, getElem?_of_mem ((hmem p).1 h), hamount p]
  · rw [Std.ExtTreeMap.getElem?_eq_none h, Std.ExtTreeMap.getElem?_eq_none (mt (hmem p).2 h)]

@[simp] theorem amount_add (a b : Pollutants ℝ) (p : String) :
    (a.add b).amount p = a.amount p + b.amount p := by
  by_cases h : p ∈ b
  · apply amount_of_getElem?
    rw [add, Std.ExtTreeMap.getElem?_union, Std.ExtTreeMap.getElem?_map, getElem?_of_mem h,
      Scalar.ofNat_real 0, Nat.cast_zero]
    rfl
  · rw [amount_of_not_mem h, add_zero, amount, amount, add,
      Std.ExtTreeMap.getD_union_of_not_mem_right (by rwa [Std.ExtTreeMap.mem_map])]

theorem amount_foldl_add : (maps.foldl add a).amount p =
    a.amount p + (maps.map fun b => b.amount p).sum := by
  induction maps generalizing a with
  | nil => exact (add_zero _).symm
  | cons b maps ih => rw [List.foldl_cons, ih, amount_add, List.map_cons, List.sum_cons, add_assoc]

@[simp] theorem amount_total (maps : List (Pollutants ℝ)) (p : String) :
    (total maps).amount p = (maps.map fun b => b.amount p).sum := by
  rw [total, amount_foldl_add, amount_of_not_mem Std.ExtTreeMap.not_mem_empty, zero_add]

/-- A pollutant without a factor keeps its amount. -/
@[simp] theorem amount_adjust (a factors : Pollutants ℝ) (p : String) :
    (a.adjust factors).amount p = a.amount p * factors.getD p 1 := by
  by_cases h : p ∈ a
  · apply amount_of_getElem?
    rw [adjust, Std.ExtTreeMap.getElem?_map, getElem?_of_mem h, Option.map_some,
      Std.ExtTreeMap.getD_eq_getD_getElem?]
    cases factors[p]? with
    | some factor => rfl
    | none => exact congrArg some (mul_one _).symm
  · rw [amount_of_not_mem h, amount_of_not_mem (mt mem_adjust.1 h), zero_mul]

@[simp] theorem amount_scale (a : Pollutants ℝ) (x : ℝ) (p : String) :
    (a.scale x).amount p = a.amount p * x := by
  by_cases h : p ∈ a
  · apply amount_of_getElem?
    rw [scale, Std.ExtTreeMap.getElem?_map, getElem?_of_mem h]
    rfl
  · rw [amount_of_not_mem h, amount_of_not_mem (mt mem_scale.1 h), zero_mul]

end Pollutants

end ShipEmissions
