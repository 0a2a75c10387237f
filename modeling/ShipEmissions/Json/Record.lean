import ShipEmissions.Json.Basic
import ShipEmissions.Vocabulary.Engine

/-!
# Records in documents

A record with fixed fields is written as an object with its fields by name, or as a list of their
values in order. A list may leave out fields at its end; which fields may be missing is for the
reader of each field to say.
-/

namespace ShipEmissions

namespace Json

/-- How often a name occurs among fields. -/
def Fields.countName (fields : Fields) (name : String) : Nat :=
  (fields.filter fun (key, _) => key == name).length

/-- The values of the named fields, in the order of the names. A name may not occur twice. A closed
record has no other fields; otherwise these are ignored. -/
def record? (closed : Bool) (names : List String) : Json → Option (List (Option Json))
  | .object fields =>
    if names.any fun name => 1 < Fields.countName fields name then none
    else if closed && fields.any fun (key, _) => !names.contains key then none
    else some (names.map fun name => fields.lookup name)
  | .array items =>
    if items.length ≤ names.length then
      some (items.map some ++ List.replicate (names.length - items.length) none)
    else none
  | _ => none

/-- A number that may be missing or null. -/
def optionalNumber? : Option Json → Option (Option Float)
  | none => some none
  | some .null => some none
  | some doc => doc.number?.map some

/-- A number with a value for where it is missing. -/
def numberOr? (missing : Float) : Option Json → Option Float
  | none => some missing
  | some doc => doc.number?

/-- The term that a document stands for: its word, or an object whose only field has the word for a
name and null for a value. -/
def term? (τ : Type) [Vocabulary τ] : Json → Option τ
  | .text s => Vocabulary.ofWord? s
  | .object [(name, .null)] => Vocabulary.ofWord? name
  | _ => none

/-- The tier that a document gives by its level, an integer. -/
def tier? : Json → Option NoxTier
  | .number (.integer n) => if 0 ≤ n then NoxTier.ofLevel? n.toNat else none
  | _ => none

end Json

end ShipEmissions
