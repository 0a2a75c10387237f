import ShipEmissions.Decimal.Style
import ShipEmissions.Json.Basic
import ShipEmissions.Text.Quoted

/-!
# Writing documents

`Json.compact` writes a document without spaces, `Json.indented` one item a line. Numbers keep the
form they were read in: integers without a point, others in the interchange style.
-/

namespace ShipEmissions

namespace Json

/-- How one character stands in a document's text: a backslash before quotes and backslashes, short
forms or the code point for control characters, and all else as it is. -/
def escapedChar (c : Char) : String :=
  match c with
  | '"' => "\\\""
  | '\\' => "\\\\"
  | '\n' => "\\n"
  | '\r' => "\\r"
  | '\t' => "\\t"
  | '\x08' => "\\b"
  | '\x0c' => "\\f"
  | _ =>
    if c.toNat < 0x20 then
      let digits := Text.hexadecimal c.toNat
      "\\u" ++ String.ofList (List.replicate (4 - digits.length) '0') ++ digits
    else c.toString

/-- A text between quotes. -/
def quotedText (s : String) : String := "\"" ++ String.join (s.toList.map escapedChar) ++ "\""

/-- A number in the form it was read in. -/
def Number.text : Number → String
  | .integer n => toString n
  | .decimal x => NumberStyle.interchange.text x

/-- A value that holds no others. -/
def scalarText : Json → String
  | .null => "null"
  | .boolean b => if b then "true" else "false"
  | .number n => n.text
  | .text s => quotedText s
  | .array _ => "[]"
  | .object _ => "\x7b\x7d"

mutual

/-- The document without spaces. -/
def compact : Json → String
  | .array items => "[" ++ ",".intercalate (compactItems items) ++ "]"
  | .object fields => "\x7b" ++ ",".intercalate (compactFields fields) ++ "\x7d"
  | doc => scalarText doc

/-- The texts of the items of a list. -/
def compactItems : List Json → List String
  | [] => []
  | item :: items => compact item :: compactItems items

/-- The texts of the fields of an object. -/
def compactFields : Fields → List String
  | [] => []
  | (name, value) :: fields => (quotedText name ++ ":" ++ compact value) :: compactFields fields

end

/-- Items between brackets, one a line, two places further in than `margin`. -/
def block (opening closing margin : String) (items : List String) : String :=
  if items.isEmpty then opening ++ closing
  else
    opening ++ "\n" ++ ",\n".intercalate (items.map fun item => margin ++ "  " ++ item) ++ "\n" ++
      margin ++ closing

mutual

/-- The document with one item a line. -/
def indented (margin : String) : Json → String
  | .array items => block "[" "]" margin (indentedItems (margin ++ "  ") items)
  | .object fields => block "\x7b" "\x7d" margin (indentedFields (margin ++ "  ") fields)
  | doc => scalarText doc

/-- The texts of the items of a list, for lines that start with `margin`. -/
def indentedItems (margin : String) : List Json → List String
  | [] => []
  | item :: items => indented margin item :: indentedItems margin items

/-- The texts of the fields of an object, for lines that start with `margin`. -/
def indentedFields (margin : String) : Fields → List String
  | [] => []
  | (name, value) :: fields =>
    (quotedText name ++ ": " ++ indented margin value) :: indentedFields margin fields

end

end Json

end ShipEmissions
