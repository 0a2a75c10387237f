import Mathlib
import ShipEmissions.Proofs.Pollutants

/-!
# The algebra of amounts of pollutants

Sums, products by factors and products by a number, over the real numbers. A pollutant that is not
listed counts as nothing in a sum and as one among factors, and it stays unlisted in a product. The
laws hold of the maps, so also of which pollutants they list.

* `add_eq_foldl`: a sum is what comes of entering one amount after another.
* `foldl_add_perm`: the order in which maps are added up does not matter.
* `add_adjust_scale_laws`: how sums, factors and numbers go together.
-/

namespace ShipEmissions

namespace Pollutants

/-! ## One amount after another -/

section

variable {α : Type} [Scalar α] {a b : Pollutants α} {entries : List (String × α)} {p : String}
  {x : α}

/-- A map with an amount of a pollutant on top of what it lists. -/
def enter (a : Pollutants α) (name : String) (x : α) : Pollutants α :=
  a.insert name (a.getD name 0 + x)

theorem getElem?_enter_self : (a.enter p x)[p]? = some (a.getD p 0 + x) :=
  Std.ExtTreeMap.getElem?_insert_self

theorem getElem?_enter_of_ne {name : String} (h : name ≠ p) : (a.enter name x)[p]? = a[p]? := by
  rw [enter, Std.ExtTreeMap.getElem?_insert, if_neg (mt compare_eq_iff_eq.1 h)]

theorem getElem?_foldl_enter_of_forall_ne (h : ∀ e ∈ entries, e.1 ≠ p) :
    (entries.foldl (fun a e => a.enter e.1 e.2) a)[p]? = a[p]? := by
  induction entries generalizing a with
  | nil => rfl
  | cons e entries ih =>
    rw [List.foldl_cons, ih fun e he => h e (List.mem_cons_of_mem _ he),
      getElem?_enter_of_ne (h e List.mem_cons_self)]

/-- Where no pollutant is entered twice, each amount comes on top of what the map listed before. -/
theorem getElem?_foldl_enter_of_mem (hdistinct : (entries.map Prod.fst).Nodup)
    (h : (p, x) ∈ entries) :
    (entries.foldl (fun a e => a.enter e.1 e.2) a)[p]? = some (a.getD p 0 + x) := by
  induction entries generalizing a with
  | nil => cases h
  | cons e entries ih =>
    rw [List.map_cons, List.nodup_cons] at hdistinct
    rw [List.foldl_cons]
    rcases List.mem_cons.1 h with rfl | hrest
    · rw [getElem?_foldl_enter_of_forall_ne, getElem?_enter_self]
      rintro e he rfl
      exact hdistinct.1 (List.mem_map.2 ⟨e, he, rfl⟩)
    · have hne : e.1 ≠ p := by
        rintro rfl
        exact hdistinct.1 (List.mem_map.2 ⟨_, hrest, rfl⟩)
      rw [ih hdistinct.2 hrest, Std.ExtTreeMap.getD_eq_getD_getElem?, getElem?_enter_of_ne hne,
        ← Std.ExtTreeMap.getD_eq_getD_getElem?]

/-- A sum is what comes of entering the amounts of the second map into the first. -/
theorem add_eq_foldl (a b : Pollutants α) : a.add b = b.foldl enter a := by
  have hdistinct : (b.toList.map Prod.fst).Nodup := by
    rw [List.Nodup, List.pairwise_map]
    exact Std.ExtTreeMap.distinct_keys_toList.imp fun h => mt compare_eq_iff_eq.2 h
  apply Std.ExtTreeMap.ext_getElem?
  intro p
  rw [Std.ExtTreeMap.foldl_eq_foldl_toList, add, Std.ExtTreeMap.getElem?_union,
    Std.ExtTreeMap.getElem?_map]
  cases h : b[p]? with
  | some x =>
    have hmem := Std.ExtTreeMap.mem_toList_iff_getElem?_eq_some.2 h
    rw [getElem?_foldl_enter_of_mem hdistinct hmem]
    rfl
  | none =>
    rw [getElem?_foldl_enter_of_forall_ne]
    · rfl
    · rintro ⟨name, x⟩ he rfl
      rw [Std.ExtTreeMap.mem_toList_iff_getElem?_eq_some.1 he] at h
      cases h

end

/-! ## Laws -/

variable {maps maps' : List (Pollutants ℝ)}

protected theorem add_assoc (a b c : Pollutants ℝ) : (a.add b).add c = a.add (b.add c) := by
  refine ext_amount (fun p => ?_) fun p => ?_
  · simp only [mem_add, or_assoc]
  · simp only [amount_add, add_assoc]

protected theorem add_comm (a b : Pollutants ℝ) : a.add b = b.add a := by
  refine ext_amount (fun p => ?_) fun p => ?_
  · simp only [mem_add, or_comm]
  · simp only [amount_add, add_comm]

protected theorem add_empty (a : Pollutants ℝ) : a.add ∅ = a := by
  refine ext_amount (fun p => ?_) fun p => ?_
  · simp only [mem_add, Std.ExtTreeMap.not_mem_empty, or_false]
  · rw [amount_add, amount_of_not_mem Std.ExtTreeMap.not_mem_empty, add_zero]

instance rightCommutative_add : RightCommutative (add : Pollutants ℝ → Pollutants ℝ → _) where
  right_comm a b c := by
    rw [Pollutants.add_assoc, Pollutants.add_comm b, ← Pollutants.add_assoc]

/-- The order in which maps are added up does not matter. -/
theorem foldl_add_perm (h : maps.Perm maps') (a : Pollutants ℝ) :
    maps.foldl add a = maps'.foldl add a :=
  h.foldl_eq a

theorem scale_add (a b : Pollutants ℝ) (x : ℝ) :
    (a.add b).scale x = (a.scale x).add (b.scale x) := by
  refine ext_amount (fun p => ?_) fun p => ?_
  · simp only [mem_scale, mem_add]
  · simp only [amount_scale, amount_add, add_mul]

theorem scale_scale (a : Pollutants ℝ) (x y : ℝ) : (a.scale x).scale y = a.scale (x * y) := by
  refine ext_amount (fun p => ?_) fun p => ?_
  · simp only [mem_scale]
  · simp only [amount_scale, mul_assoc]

theorem adjust_scale (a factors : Pollutants ℝ) (x : ℝ) :
    (a.scale x).adjust factors = (a.adjust factors).scale x := by
  refine ext_amount (fun p => ?_) fun p => ?_
  · simp only [mem_adjust, mem_scale]
  · simp only [amount_adjust, amount_scale, mul_right_comm]

theorem adjust_add (a b factors : Pollutants ℝ) :
    (a.add b).adjust factors = (a.adjust factors).add (b.adjust factors) := by
  refine ext_amount (fun p => ?_) fun p => ?_
  · simp only [mem_adjust, mem_add]
  · simp only [amount_adjust, amount_add, add_mul]

/-- Sums can be grouped and ordered at will, also where maps are entered one by one into another,
and they list what one of the maps lists; nothing added changes nothing. Numbers multiply sums map
by map, and two numbers as their product. Factors leave a map with the pollutants that it lists, and
they can be multiplied before or after a number, and before or after a sum. -/
theorem add_adjust_scale_laws (a b c factors : Pollutants ℝ) (x y : ℝ) :
    (a.add b).add c = a.add (b.add c) ∧ a.add b = b.add a ∧ a.add ∅ = a ∧ add ∅ a = a ∧
      (∀ p, p ∈ a.add b ↔ p ∈ a ∨ p ∈ b) ∧
      (∀ maps maps' : List (Pollutants ℝ), maps.Perm maps' →
        maps.foldl (fun a b => b.foldl enter a) c = maps'.foldl (fun a b => b.foldl enter a) c ∧
          total maps = total maps') ∧
      (a.add b).scale x = (a.scale x).add (b.scale x) ∧ (a.scale x).scale y = a.scale (x * y) ∧
      (∀ p, p ∈ a.adjust factors ↔ p ∈ a) ∧
      (a.scale x).adjust factors = (a.adjust factors).scale x ∧
      (a.add b).adjust factors = (a.adjust factors).add (b.adjust factors) := by
  have hentered : (fun a b : Pollutants ℝ => b.foldl enter a) = add :=
    funext₂ fun a b => (add_eq_foldl a b).symm
  refine ⟨Pollutants.add_assoc a b c, Pollutants.add_comm a b, Pollutants.add_empty a, ?_,
    fun p => mem_add, fun maps maps' h => ⟨?_, foldl_add_perm h ∅⟩, scale_add a b x,
    scale_scale a x y, fun p => mem_adjust, adjust_scale a factors x, adjust_add a b factors⟩
  · rw [Pollutants.add_comm, Pollutants.add_empty]
  · rw [hentered]
    exact foldl_add_perm h c

/-- Two maps that list different pollutants can be added up in either order. -/
theorem add_adjust_scale_laws_swapped :
    let carbon : Pollutants ℝ := (∅ : Pollutants ℝ).insert "CO2" 3
    let sulphur : Pollutants ℝ := (∅ : Pollutants ℝ).insert "SOx" 2
    [carbon, sulphur].Perm [sulphur, carbon] ∧
      total [carbon, sulphur] = total [sulphur, carbon] ∧
      (total [carbon, sulphur]).amount "CO2" = 3 := by
  intro carbon sulphur
  have hperm : [carbon, sulphur].Perm [sulphur, carbon] := .swap _ _ _
  obtain ⟨-, -, -, -, -, hordered, -⟩ := add_adjust_scale_laws carbon sulphur ∅ ∅ 1 1
  refine ⟨hperm, (hordered _ _ hperm).2, ?_⟩
  have hcarbon : carbon.amount "CO2" = 3 := amount_of_getElem? Std.ExtTreeMap.getElem?_insert_self
  have hsulphur : sulphur.amount "CO2" = 0 := by
    refine amount_of_not_mem ?_
    rw [Std.ExtTreeMap.mem_insert]
    rintro (h | h)
    · exact absurd (compare_eq_iff_eq.1 h) (by decide)
    · exact Std.ExtTreeMap.not_mem_empty h
  rw [amount_total, List.map_cons, List.map_cons, List.map_nil, hcarbon, hsulphur, List.sum_cons,
    List.sum_cons, List.sum_nil, add_zero, add_zero]

end Pollutants

end ShipEmissions
