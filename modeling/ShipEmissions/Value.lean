import ShipEmissions.Decimal.Style
import ShipEmissions.Json.Basic
import ShipEmissions.Text.Quoted
import ShipEmissions.Vocabulary.Engine

/-!
# Attribute values and bags

Rules look at named attributes whose values are null, a truth value, a number or a text. A `Bag` is
a set of attributes, each with one value, in the order of their names.

* `Value.ofJson?` reads a value from a document, `Value.toJson` writes one.
* `Bag.overlay` puts one bag on top of another.
* `Bag.present?` is the value of an attribute that is there and not null.
-/

namespace ShipEmissions

/-- The value of an attribute. -/
inductive Value where
  | null
  | boolean (b : Bool)
  | number (x : Float)
  | text (s : String)
  deriving BEq, Inhabited

namespace Value

/-- Whether a value is null. -/
def isNull : Value → Bool
  | .null => true
  | _ => false

/-- The number that a value is, if it is one. -/
def number? : Value → Option Float
  | .number x => some x
  | _ => none

/-- The text that a value is, if it is one. -/
def text? : Value → Option String
  | .text s => some s
  | _ => none

/-- The value of a document that holds no others. -/
def ofJson? : Json → Option Value
  | .null => some .null
  | .boolean b => some (.boolean b)
  | .number n => some (.number n.toFloat)
  | .text s => some (.text s)
  | .array _ => none
  | .object _ => none

/-- The value as a document. -/
def toJson : Value → Json
  | .null => .null
  | .boolean b => .boolean b
  | .number x => .ofFloat x
  | .text s => .text s

/-- The value in a sentence: texts between single quotes, as they are. -/
def plain : Value → String
  | .null => "null"
  | .boolean b => if b then "true" else "false"
  | .number x => NumberStyle.plain.text x
  | .text s => "'" ++ s ++ "'"

/-- The value as data. -/
def shown : Value → String
  | .null => "Null"
  | .boolean b => if b then "Bool(true)" else "Bool(false)"
  | .number x => "Number(" ++ NumberStyle.detailed.text x ++ ")"
  | .text s => "Text(" ++ Text.quoted s ++ ")"

/-- A term of a vocabulary as a value. -/
def ofTerm {τ : Type} [Vocabulary τ] (t : τ) : Value := .text (Vocabulary.word t)

/-- The term that a text value stands for. -/
def term? (τ : Type) [Vocabulary τ] : Value → Option τ
  | .text s => Vocabulary.ofWord? s
  | _ => none

/-- The tier as a value: the number of its level. -/
def ofTier (t : NoxTier) : Value := .number (Float.ofNat t.level)

/-- The tier whose level a number is equal to. -/
def tier? (v : Value) : Option NoxTier :=
  v.number?.bind fun x => NoxTier.all.find? fun t => Float.ofNat t.level == x

end Value

/-- Attributes by name. -/
abbrev Bag := Std.ExtTreeMap String Value

namespace Bag

/-- The bag of a list of attributes; of two with one name the later counts. -/
def ofList (entries : List (String × Value)) : Bag := Std.ExtTreeMap.ofList entries

/-- One bag on top of another: where both have an attribute, the value of the upper one counts. -/
def overlay (base top : Bag) : Bag := base ∪ top

/-- The value of an attribute that is there and not null. -/
def present? (bag : Bag) (name : String) : Option Value := bag[name]?.filter fun v => !v.isNull

/-- The bag as data. -/
def shown (bag : Bag) : String := Text.braced (bag.toList.map fun (name, v) => (name, v.shown))

/-- The bag as a document. -/
def toJson (bag : Bag) : Json := .object (bag.toList.map fun (name, v) => (name, v.toJson))

end Bag

end ShipEmissions
