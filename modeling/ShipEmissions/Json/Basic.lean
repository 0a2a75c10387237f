import Std.Data.ExtTreeMap

/-!
# Documents

A document is a tree of named and listed values. Numbers that a text writes as integers are kept
apart from the others, since messages show them as they were written.

`Json.normalized` gives the form that rules are read from: fields in the order of their names, and
of two fields with one name the later.
-/

namespace ShipEmissions

/-- A number of a document: an integer of at most 64 bits, or a floating-point number. -/
inductive Json.Number where
  | integer (n : Int)
  | decimal (x : Float)

/-- A document. The fields of an object stand in the order in which they were written. -/
inductive Json where
  | null
  | boolean (b : Bool)
  | number (n : Json.Number)
  | text (s : String)
  | array (items : List Json)
  | object (fields : List (String × Json))
  deriving Inhabited

namespace Json

/-- The fields of an object. -/
abbrev Fields := List (String × Json)

/-- A number as a floating-point number; an integer goes to the nearest. -/
def Number.toFloat : Number → Float
  | .integer n => Float.ofInt n
  | .decimal x => x

/-- A floating-point number as a document. Only finite numbers can be written, others become
`null`. -/
def ofFloat (x : Float) : Json := if x.isFinite then .number (.decimal x) else .null

/-- The number that a document is, if it is one. -/
def number? : Json → Option Float
  | .number n => some n.toFloat
  | _ => none

/-- The text that a document is, if it is one. -/
def text? : Json → Option String
  | .text s => some s
  | _ => none

/-- The items of a document that is a list. -/
def items? : Json → Option (List Json)
  | .array items => some items
  | _ => none

/-- The fields of a document that is an object. -/
def fields? : Json → Option Fields
  | .object fields => some fields
  | _ => none

/-- The value of a field; `none` if the document is no object or has no such field. -/
def field? (doc : Json) (name : String) : Option Json :=
  doc.fields?.bind fun fields => fields.lookup name

/-- Fields in the order of their names, of two with one name the later. -/
def sortedFields (fields : Fields) : Fields := (Std.ExtTreeMap.ofList fields).toList

mutual

/-- The document with the fields of every object sorted and each name once. -/
def normalized : Json → Json
  | .array items => .array (normalizedItems items)
  | .object fields => .object (sortedFields (normalizedFields fields))
  | doc => doc

/-- The items of a list, each normalized. -/
def normalizedItems : List Json → List Json
  | [] => []
  | item :: items => normalized item :: normalizedItems items

/-- The fields of an object, each value normalized. -/
def normalizedFields : Fields → Fields
  | [] => []
  | (name, value) :: fields => (name, normalized value) :: normalizedFields fields

end

end Json

end ShipEmissions
