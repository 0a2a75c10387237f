import ShipEmissions.Error

/-!
# Reading words and values

A word that no term has is refused with the kind of term that was wanted. Where a value is no word
at all, the path of the vocabulary stands for the kind. Fields without a value are refused in the
words of who reads them: `Bag.ofFields?` is told how.
-/

namespace ShipEmissions

/-- The term that a word stands for. -/
def Vocabulary.read? (τ : Type) [Vocabulary τ] (text : String) : Except WordError τ :=
  match Vocabulary.ofWord? text with
  | some t => .ok t
  | none => .error (.unknown (Vocabulary.kind τ) text)

/-- The tier of a level. -/
def NoxTier.read? (level : Nat) : Except WordError NoxTier :=
  match NoxTier.ofLevel? level with
  | some t => .ok t
  | none => .error (.unknown NoxTier.kind (toString level))

/-- The term that a value stands for. -/
def Value.readTerm? (τ : Type) [Vocabulary τ] : Value → Except WordError τ
  | .text s => Vocabulary.read? τ s
  | v => .error (.unknown (Vocabulary.path τ) v.plain)

/-- The value that a document holds. -/
def Value.read? (doc : Json) : Except WordError Value :=
  match Value.ofJson? doc with
  | some v => .ok v
  | none => .error (.notScalar doc)

/-- The attribute that a field of a document gives. -/
def Bag.entryOfField? {ε : Type} (refuse : String → WordError → ε) (field : String × Json) :
    Except ε (String × Value) :=
  match Value.read? field.2 with
  | .ok v => .ok (field.1, v)
  | .error e => .error (refuse field.1 e)

/-- The bag with an attribute for every field. -/
def Bag.ofFields? {ε : Type} (refuse : String → WordError → ε) (fields : Json.Fields) :
    Except ε Bag :=
  (fields.mapM (entryOfField? refuse)).map ofList

/-- An unknown word as an error. -/
def Error.ofWord {β : Type} (r : Except WordError β) : Except Error β := r.mapError .word

end ShipEmissions
