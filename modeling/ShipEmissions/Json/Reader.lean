import ShipEmissions.Json.Written

/-!
# Reading documents

What the numbers and texts of a written document stand for.

* `Written.value?` gives the whole document, with the fields of objects as written. Numbers beyond
  all floating-point numbers, code units without their other half and more than `maxDepth` lists and
  objects in each other are refused.
* `Written.record?` looks only into the fields of an object that have one of the given names.
* `Json.read?` gives the normalized document that a text spells.
-/

namespace ShipEmissions

namespace Json

/-! ## Texts -/

/-- Whether a code unit is the first half of a pair. -/
def isHigh (unit : Nat) : Bool := 0xd800 ≤ unit && unit < 0xdc00

/-- Whether a code unit is the second half of a pair. -/
def isLow (unit : Nat) : Bool := 0xdc00 ≤ unit && unit < 0xe000

/-- The character that a pair of code units stands for. -/
def ofPair (high low : Nat) : Char :=
  Char.ofNat (0x10000 + (high - 0xd800) * 0x400 + (low - 0xdc00))

/-- The characters that pieces of a text stand for. Halves of pairs have to stand together. -/
def joined? : List Piece → Option (List Char)
  | [] => some []
  | .char c :: rest => (joined? rest).map (c :: ·)
  | .unit high :: .unit low :: rest =>
    if isHigh high then
      if isLow low then (joined? rest).map (ofPair high low :: ·) else none
    else if isLow high then none
    else (joined? (.unit low :: rest)).map (Char.ofNat high :: ·)
  | .unit n :: rest =>
    if isHigh n || isLow n then none else (joined? rest).map (Char.ofNat n :: ·)

/-- The text that pieces stand for. -/
def textOf? (pieces : List Piece) : Option String := (joined? pieces).map String.ofList

/-! ## Documents -/

/-- The most lists and objects that may stand in each other. -/
def maxDepth : Nat := 127

mutual

/-- The document that is written, with room for `depth` lists and objects in each other. -/
def Written.value? (depth : Nat) : Written → Option Json
  | .null => some .null
  | .boolean b => some (.boolean b)
  | .number d => (Number.ofDecimal? d).map .number
  | .text pieces => (textOf? pieces).map .text
  | .array items =>
    match depth with
    | 0 => none
    | depth + 1 => (itemValues? depth items).map .array
  | .object fields =>
    match depth with
    | 0 => none
    | depth + 1 => (fieldValues? depth fields).map .object

/-- The documents that the items of a list are. -/
def itemValues? (depth : Nat) : List Written → Option (List Json)
  | [] => some []
  | item :: items => do
    let item ← item.value? depth
    let items ← itemValues? depth items
    return item :: items

/-- The fields of an object. -/
def fieldValues? (depth : Nat) : List (List Piece × Written) → Option Fields
  | [] => some []
  | (name, value) :: fields => do
    let name ← textOf? name
    let value ← value.value? depth
    let fields ← fieldValues? depth fields
    return (name, value) :: fields

end

/-- The fields with one of these names. The values of others are not looked into. -/
def namedValues? (depth : Nat) (names : List String) :
    List (List Piece × Written) → Option Fields
  | [] => some []
  | (name, value) :: fields => do
    let name ← textOf? name
    if names.contains name then
      let value ← value.value? depth
      let fields ← namedValues? depth names fields
      return (name, value) :: fields
    else namedValues? depth names fields

/-- The document with only the fields of these names, if it is an object. -/
def Written.record? (depth : Nat) (names : List String) : Written → Option Json
  | .object fields => (namedValues? depth names fields).map .object
  | written => written.value? depth

/-- The document that a text spells, normalized. -/
def read? (text : String) : Option Json := do
  let written ← Written.ofText? text
  let doc ← written.value? maxDepth
  return doc.normalized

/-- The records in a list that a text spells, each with only the fields of these names. -/
def readRecords? (names : List String) (text : String) : Option (List Json) := do
  match ← Written.ofText? text with
  | .array items => items.mapM (Written.record? maxDepth names)
  | _ => none

end Json

end ShipEmissions
