import ShipEmissions.Vocabulary.Reader

/-!
# Words and terms

Every vocabulary lists all of its terms under different words, so a word stands for at most one term
and every term is read back from its word.

* `Vocabulary.Lawful`: the vocabularies that lose no term, with an instance for each of them.
* `Vocabulary.ofWord?_eq_some_iff`, `Value.term?_eq_some_iff`: which word or value is which term.
* `Bag.entryOfField?_eq_ok_iff`: which attribute a field gives, whoever reads it.
-/

namespace ShipEmissions

/-- A vocabulary whose terms are read back from their words. -/
class Vocabulary.Lawful (τ : Type) [Vocabulary τ] : Prop where
  ofWord?_word (t : τ) : Vocabulary.ofWord? (Vocabulary.word t) = some t

instance : Vocabulary.Lawful Mode := ⟨fun t => by cases t <;> rfl⟩

instance : Vocabulary.Lawful EngineGroup := ⟨fun t => by cases t <;> rfl⟩

instance : Vocabulary.Lawful EngineCategory := ⟨fun t => by cases t <;> rfl⟩

instance : Vocabulary.Lawful SizeUnit := ⟨fun t => by cases t <;> rfl⟩

instance : Vocabulary.Lawful ShipType := ⟨fun t => by cases t <;> rfl⟩

variable {τ : Type} [Vocabulary τ] [Vocabulary.Lawful τ] {t : τ} {text : String} {v : Value}

namespace Vocabulary

theorem ofWord?_eq_some_iff : ofWord? text = some t ↔ text = word t := by
  constructor
  · intro h
    have hword := List.find?_some h
    exact (eq_of_beq hword).symm
  · rintro rfl
    exact Lawful.ofWord?_word t

theorem mem_all (t : τ) : t ∈ (all : List τ) :=
  List.mem_of_find?_eq_some (Lawful.ofWord?_word t)

theorem word_injective {s t : τ} (h : word s = word t) : s = t := by
  have hs := Lawful.ofWord?_word s
  rw [h, Lawful.ofWord?_word t] at hs
  exact (Option.some.inj hs).symm

theorem read?_eq_ok_iff : read? τ text = .ok t ↔ text = word t := by
  rw [← ofWord?_eq_some_iff, read?]
  cases ofWord? (τ := τ) text <;> simp

end Vocabulary

namespace Value

theorem term?_eq_some_iff : v.term? τ = some t ↔ v = .ofTerm t := by
  cases v with
  | text s => rw [term?, Vocabulary.ofWord?_eq_some_iff, ofTerm, Value.text.injEq]
  | null => simp [term?, ofTerm]
  | boolean b => simp [term?, ofTerm]
  | number x => simp [term?, ofTerm]

theorem readTerm?_eq_ok_iff : v.readTerm? τ = .ok t ↔ v = .ofTerm t := by
  cases v with
  | text s => rw [readTerm?, Vocabulary.read?_eq_ok_iff, ofTerm, Value.text.injEq]
  | null => simp [readTerm?, ofTerm]
  | boolean b => simp [readTerm?, ofTerm]
  | number x => simp [readTerm?, ofTerm]

theorem ofTerm_injective {s t : τ} (h : ofTerm s = ofTerm t) : s = t :=
  Vocabulary.word_injective (Value.text.inj h)

omit [Vocabulary.Lawful τ] in
/-- Equality of values decides whether a value is a term: no number is involved. -/
theorem ofTerm_beq_iff : (ofTerm t == v) = true ↔ v = .ofTerm t := by
  cases v with
  | text s =>
    show (Vocabulary.word t == s) = true ↔ _
    rw [beq_iff_eq, ofTerm, Value.text.injEq, eq_comm]
  | null => exact ⟨fun h => (by cases h), fun h => (by cases h)⟩
  | boolean b => exact ⟨fun h => (by cases h), fun h => (by cases h)⟩
  | number x => exact ⟨fun h => (by cases h), fun h => (by cases h)⟩

omit [Vocabulary.Lawful τ] in
theorem beq_ofTerm_iff : (v == ofTerm t) = true ↔ v = .ofTerm t := by
  cases v with
  | text s =>
    show (s == Vocabulary.word t) = true ↔ _
    rw [beq_iff_eq, ofTerm, Value.text.injEq]
  | null => exact ⟨fun h => (by cases h), fun h => (by cases h)⟩
  | boolean b => exact ⟨fun h => (by cases h), fun h => (by cases h)⟩
  | number x => exact ⟨fun h => (by cases h), fun h => (by cases h)⟩

end Value

theorem Bag.entryOfField?_eq_ok_iff {ε : Type} {refuse : String → WordError → ε}
    {field : String × Json} {entry : String × Value} :
    entryOfField? refuse field = .ok entry ↔
      entry.1 = field.1 ∧ Value.read? field.2 = .ok entry.2 := by
  obtain ⟨name, doc⟩ := field
  obtain ⟨name', value'⟩ := entry
  rw [entryOfField?]
  cases Value.read? doc with
  | error e => simp
  | ok value => simp [eq_comm]

end ShipEmissions
