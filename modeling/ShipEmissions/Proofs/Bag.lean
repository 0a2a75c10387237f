import Mathlib.Data.List.Perm.Subperm
import ShipEmissions.Vessel.Attributes

/-!
# Look-ups in bags

What overlaying, filtering, inserting and erasing do to the value of a name, and the order on bags
in which rules are monotone.

* `getElem?_overlay`, `getElem?_insert`, `getElem?_erase`: one equation for each operation.
* `beq_iff`: what it means for bags to be equal, value by value.
* `present?_eq_some_iff`: a value is present if it is there and not null.
* `Within`: a bag that keeps every entry of another and may add more.
* `size_eq_iff`: a bag of vessel attributes is full iff no attribute is missing.
-/

namespace ShipEmissions

/-- Of a list without two entries of one name, every entry counts in the map made from it. -/
theorem getElem?_ofList_of_nodup {β : Type} {entries : List (String × β)} {name : String} {x : β}
    (hnodup : (entries.map Prod.fst).Nodup) (hmem : (name, x) ∈ entries) :
    (Std.ExtTreeMap.ofList entries)[name]? = some x := by
  have hdistinct : entries.Pairwise fun a b => ¬compare a.1 b.1 = .eq := by
    rw [List.Nodup, List.pairwise_map] at hnodup
    exact hnodup.imp fun hne => by rwa [Std.LawfulEqCmp.compare_eq_iff_eq]
  exact Std.ExtTreeMap.getElem?_ofList_of_mem Std.ReflCmp.compare_self hdistinct hmem

theorem getElem?_ofList_eq_some_iff {β : Type} {entries : List (String × β)} {name : String} {x : β}
    (hnodup : (entries.map Prod.fst).Nodup) :
    (Std.ExtTreeMap.ofList entries)[name]? = some x ↔ (name, x) ∈ entries := by
  refine ⟨fun h => ?_, getElem?_ofList_of_nodup hnodup⟩
  have hname : name ∈ Std.ExtTreeMap.ofList entries := by
    rw [Std.ExtTreeMap.mem_iff_isSome_getElem?, h]
    rfl
  rw [Std.ExtTreeMap.mem_ofList, List.contains_iff_mem] at hname
  obtain ⟨⟨_, y⟩, hmem, rfl⟩ := List.mem_map.1 hname
  rw [getElem?_ofList_of_nodup hnodup hmem] at h
  cases h
  exact hmem

theorem Value.number?_eq_some_iff {v : Value} {x : Float} : v.number? = some x ↔ v = .number x := by
  cases v <;> simp [Value.number?]

namespace Bag

variable {bag base top : Bag} {name key : String} {v w : Value}

/-! ## Operations -/

@[simp] theorem getElem?_overlay (base top : Bag) (name : String) :
    (overlay base top)[name]? = top[name]?.or base[name]? :=
  Std.ExtTreeMap.getElem?_union

theorem getElem?_insert (bag : Bag) (key : String) (v : Value) (name : String) :
    (bag.insert key v)[name]? = if key = name then some v else bag[name]? := by
  simp [Std.ExtTreeMap.getElem?_insert]

theorem getElem?_erase (bag : Bag) (key name : String) :
    (bag.erase key)[name]? = if key = name then none else bag[name]? := by
  simp [Std.ExtTreeMap.getElem?_erase]

theorem getElem?_erase_of_ne (bag : Bag) (h : name ≠ key) :
    (bag.erase key)[name]? = bag[name]? := by
  rw [getElem?_erase, if_neg h.symm]

/-- The entries whose names pass a test. -/
theorem getElem?_filter_name (bag : Bag) (p : String → Bool) (name : String) :
    (bag.filter fun name _ => p name)[name]? = if p name then bag[name]? else none := by
  rw [Std.ExtTreeMap.getElem?_filter']
  cases p name <;> cases bag[name]? <;> rfl

theorem getElem?_ofList_singleton (key : String) (v : Value) (name : String) :
    (ofList [(key, v)])[name]? = if key = name then some v else none := by
  simp [ofList, Std.ExtTreeMap.getElem?_insert]

theorem mem_ofList_iff {entries : List (String × Value)} :
    name ∈ ofList entries ↔ name ∈ entries.map Prod.fst := by
  rw [ofList, Std.ExtTreeMap.mem_ofList, List.contains_iff_mem]

/-- Of a list without two entries of one name, every entry counts. -/
theorem getElem?_ofList_of_mem {entries : List (String × Value)}
    (hnodup : (entries.map Prod.fst).Nodup) (hmem : (name, v) ∈ entries) :
    (ofList entries)[name]? = some v :=
  getElem?_ofList_of_nodup hnodup hmem

/-- The map made from the entries of a map is the map. -/
theorem ofList_toList (bag : Bag) : ofList bag.toList = bag := by
  have hnodup : (bag.toList.map Prod.fst).Nodup := by
    rw [List.Nodup, List.pairwise_map]
    refine Std.ExtTreeMap.distinct_keys_toList.imp fun hne heq => hne ?_
    rwa [Std.LawfulEqCmp.compare_eq_iff_eq]
  apply Std.ExtTreeMap.ext_getElem?
  intro name
  apply Option.ext
  intro v
  rw [ofList, getElem?_ofList_eq_some_iff hnodup, Std.ExtTreeMap.mem_toList_iff_getElem?_eq_some]

theorem mem_erase_iff : name ∈ bag.erase key ↔ name ≠ key ∧ name ∈ bag := by
  rw [Std.ExtTreeMap.mem_erase, Ne, Std.LawfulEqCmp.compare_eq_iff_eq, eq_comm]

theorem mem_iff : name ∈ bag ↔ ∃ v, bag[name]? = some v := by
  rw [← Std.ExtTreeMap.isSome_getElem?_iff_mem, Option.isSome_iff_exists]

theorem getElem?_eq_none_iff : bag[name]? = none ↔ name ∉ bag := by
  rw [← Std.ExtTreeMap.isSome_getElem?_iff_mem, Option.not_isSome_iff_eq_none]

/-! ## Equality -/

open Std.DTreeMap.Internal in
/-- Bags are equal if they are as large and every value of one is equal to that of its name in the
other. -/
theorem beq_iff {a b : Bag} :
    (a == b) = true ↔ a.size = b.size ∧
      ∀ (name : String) (v : Value), a[name]? = some v → (b[name]? == some v) = true := by
  have hentries :
      (∀ (name : String) (v : Value), a[name]? = some v → (b[name]? == some v) = true) ↔
      ∀ entry ∈ a.toList, (b[entry.1]? == some entry.2) = true := by
    simp only [Prod.forall, Std.ExtTreeMap.mem_toList_iff_getElem?_eq_some]
  rw [hentries]
  obtain ⟨a⟩ := a
  obtain ⟨b⟩ := b
  refine a.inductionOn₂ b fun x y => ?_
  have htoList : Std.DTreeMap.Const.toList x = x.inner.toListModel.map fun e => (e.1, e.2) :=
    Impl.Const.toList_eq_toListModel_map
  show Std.DTreeMap.Const.beq x y = true ↔ x.size = y.size ∧
    ∀ entry ∈ Std.DTreeMap.Const.toList x,
      (Std.DTreeMap.Const.get? y entry.1 == some entry.2) = true
  rw [Std.DTreeMap.Const.beq, Impl.Const.beq, Impl.all_eq_all_toListModel, htoList,
    List.forall_mem_map]
  by_cases hsize : x.inner.size = y.inner.size
  · rw [if_neg (not_not.2 hsize), List.all_eq_true]
    exact (and_iff_right hsize).symm
  · rw [if_pos hsize]
    exact ⟨fun h => (by cases h), fun h => absurd h.1 hsize⟩

/-! ## Values that are present -/

theorem present?_eq_some_iff :
    bag.present? name = some v ↔ bag[name]? = some v ∧ v.isNull = false := by
  simp [present?, Option.filter_eq_some_iff]

theorem present?_of_getElem? (h : bag[name]? = some v) (hv : v.isNull = false) :
    bag.present? name = some v :=
  present?_eq_some_iff.2 ⟨h, hv⟩

/-! ## Bags within bags -/

/-- Every entry of `small` is one of `large`. -/
def Within (small large : Bag) : Prop :=
  ∀ (name : String) (v : Value), small[name]? = some v → large[name]? = some v

theorem Within.refl (bag : Bag) : Within bag bag := fun _ _ h => h

theorem Within.trans {a b c : Bag} (hab : Within a b) (hbc : Within b c) : Within a c :=
  fun name v h => hbc name v (hab name v h)

theorem Within.mem {small large : Bag} (h : Within small large) (hname : name ∈ small) :
    name ∈ large := by
  obtain ⟨v, hv⟩ := mem_iff.1 hname
  exact mem_iff.2 ⟨v, h name v hv⟩

theorem within_overlay (base top : Bag) : Within top (overlay base top) := by
  intro name v h
  rw [getElem?_overlay, h, Option.some_or]

theorem within_erase (bag : Bag) (key : String) : Within (bag.erase key) bag := by
  intro name v h
  rw [getElem?_erase] at h
  split at h
  · cases h
  · exact h

/-! ## Bags of vessel attributes -/

theorem nodup_attributes : Vessel.attributes.Nodup := by decide

theorem isAttribute_iff : Vessel.isAttribute name = true ↔ name ∈ Vessel.attributes := by
  simp [Vessel.isAttribute]

/-- A bag that holds nothing but attributes of vessels has as many entries as there are attributes
iff it holds all of them. -/
theorem size_eq_iff (hbag : ∀ name ∈ bag, Vessel.isAttribute name) :
    bag.size = Vessel.attributes.length ↔ ∀ name ∈ Vessel.attributes, name ∈ bag := by
  have hsub : bag.keys ⊆ Vessel.attributes := fun name h =>
    isAttribute_iff.1 (hbag name (Std.ExtTreeMap.mem_keys.1 h))
  have hperm := List.subperm_of_subset Std.ExtTreeMap.nodup_keys hsub
  rw [← Std.ExtTreeMap.length_keys]
  constructor
  · intro hlen name hname
    have hall := hperm.perm_of_length_le (Nat.le_of_eq hlen.symm)
    exact Std.ExtTreeMap.mem_keys.1 (hall.mem_iff.2 hname)
  · intro hall
    have hsup : Vessel.attributes ⊆ bag.keys := fun name h =>
      Std.ExtTreeMap.mem_keys.2 (hall name h)
    exact Nat.le_antisymm hperm.length_le (List.subperm_of_subset nodup_attributes hsup).length_le

end Bag

end ShipEmissions
