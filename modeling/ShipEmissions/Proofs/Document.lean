import ShipEmissions.Json.Basic

/-!
# Documents with finite numbers

Written documents have no infinite numbers, and none that differ from themselves. `Json.isFinite`
says so of a whole document, and everything that is looked up in one inherits it.

* `Json.isFinite`: the documents all of whose numbers are finite.
* `beq_self_of_isFinite`: a finite number is equal to itself.
* `isFinite_of_lookup`: the value of a field of a finite document is finite.
-/

namespace ShipEmissions

namespace Json

mutual

/-- Whether all numbers of a document are finite. -/
def isFinite : Json → Bool
  | .null => true
  | .boolean _ => true
  | .number n => n.toFloat.isFinite
  | .text _ => true
  | .array items => isFiniteItems items
  | .object fields => isFiniteFields fields

/-- Whether all numbers of several documents are finite. -/
def isFiniteItems : List Json → Bool
  | [] => true
  | item :: items => item.isFinite && isFiniteItems items

/-- Whether all numbers in the values of fields are finite. -/
def isFiniteFields : Fields → Bool
  | [] => true
  | (_, value) :: fields => value.isFinite && isFiniteFields fields

end

/-- A finite number is equal to itself. -/
theorem beq_self_of_isFinite {x : Float} (h : x.isFinite = true) : (x == x) = true := by
  show (x.toModel.unpack.compare x.toModel.unpack == some .eq) = true
  have hmodel : x.toModel.unpack.isFinite = true := h
  cases hx : x.toModel.unpack with
  | notANumber => rw [hx] at hmodel; cases hmodel
  | infinity sign => rw [hx] at hmodel; cases hmodel
  | zero sign => rfl
  | finite sign mantissa exponent positive =>
    have hsizes : (compare exponent exponent).then (compare mantissa mantissa) = .eq := by
      rw [Std.ReflOrd.compare_self, Std.ReflOrd.compare_self]
      rfl
    cases sign with
    | positive => exact congrArg (some · == some .eq) hsizes
    | negative => exact congrArg (some ·.swap == some .eq) hsizes

variable {doc : Json} {items : List Json} {fields : Fields}

theorem isFiniteItems_iff : isFiniteItems items = true ↔ ∀ item ∈ items, item.isFinite = true := by
  induction items with
  | nil => simp [isFiniteItems]
  | cons item items ih => rw [isFiniteItems, Bool.and_eq_true, ih, List.forall_mem_cons]

theorem isFiniteFields_iff :
    isFiniteFields fields = true ↔ ∀ field ∈ fields, field.2.isFinite = true := by
  induction fields with
  | nil => simp [isFiniteFields]
  | cons field fields ih => rw [isFiniteFields, Bool.and_eq_true, ih, List.forall_mem_cons]

theorem mem_of_lookup {name : String} (h : fields.lookup name = some doc) :
    (name, doc) ∈ fields := by
  induction fields with
  | nil => cases h
  | cons field fields ih =>
    obtain ⟨key, value⟩ := field
    rw [List.lookup_cons] at h
    split at h
    · next hkey =>
      rw [eq_of_beq hkey, ← Option.some.inj h]
      exact List.mem_cons_self
    · exact List.mem_cons_of_mem _ (ih h)

/-- Where no name occurs twice, every field is found by its name. -/
theorem lookup_eq_some_iff {name : String} (hnodup : (fields.map Prod.fst).Nodup) :
    fields.lookup name = some doc ↔ (name, doc) ∈ fields := by
  refine ⟨mem_of_lookup, fun hmem => ?_⟩
  induction fields with
  | nil => cases hmem
  | cons field fields ih =>
    obtain ⟨key, other⟩ := field
    rw [List.map_cons, List.nodup_cons] at hnodup
    rw [List.lookup_cons]
    rcases List.mem_cons.1 hmem with heq | hrest
    · cases heq
      rw [beq_self_eq_true]
    · have hne : (name == key) = false := by
        rw [beq_eq_false_iff_ne]
        rintro rfl
        exact hnodup.1 (List.mem_map.2 ⟨_, hrest, rfl⟩)
      rw [hne]
      exact ih hnodup.2 hrest

theorem isFinite_of_lookup {name : String} (hfields : isFiniteFields fields = true)
    (h : fields.lookup name = some doc) : doc.isFinite = true :=
  isFiniteFields_iff.1 hfields _ (mem_of_lookup h)

theorem fields?_eq_some_iff : doc.fields? = some fields ↔ doc = .object fields := by
  cases doc <;> simp [fields?]

theorem items?_eq_some_iff : doc.items? = some items ↔ doc = .array items := by
  cases doc <;> simp [items?]

theorem number?_eq_some_iff {x : Float} :
    doc.number? = some x ↔ ∃ n : Number, doc = .number n ∧ n.toFloat = x := by
  cases doc <;> simp [number?]

theorem beq_self_of_number? (hdoc : doc.isFinite = true) {x : Float} (h : doc.number? = some x) :
    (x == x) = true := by
  cases doc with
  | number n =>
    rw [← Option.some.inj h]
    exact beq_self_of_isFinite hdoc
  | null => cases h
  | boolean b => cases h
  | text s => cases h
  | array items => cases h
  | object fields => cases h

end Json

end ShipEmissions
