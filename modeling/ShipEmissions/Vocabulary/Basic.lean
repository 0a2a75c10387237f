/-!
# Closed vocabularies

A vocabulary is a closed list of terms, each written as one word in documents. Words are read
exactly as they are written, and messages show a term by its own name.
-/

namespace ShipEmissions

/-- A closed list of terms with a word for each. -/
class Vocabulary (τ : Type) where
  /-- What messages call a term of the list. -/
  kind : String
  /-- The path that messages give where a word is missing altogether. -/
  path : String
  /-- The terms, in their order. -/
  all : List τ
  /-- How documents write a term. -/
  word : τ → String
  /-- How messages show a term as data. -/
  shown : τ → String

namespace Vocabulary

variable {τ : Type} [Vocabulary τ]

/-- The term that a word stands for. -/
def ofWord? (text : String) : Option τ := (all : List τ).find? fun t => word t == text

end Vocabulary

end ShipEmissions
