import ShipEmissions.Text.Unprintable

/-!
# Quoted text

How messages show text as data: between double quotes, with a backslash before a quote or a
backslash, short forms for tab, line feed, carriage return and NUL, and the code point in braces for
any other character without a shape of its own. Lists and tables of quoted text follow.
-/

namespace ShipEmissions

namespace Text

/-- The lower-case hexadecimal digits of a number. -/
def hexadecimal (n : Nat) : String := String.ofList (Nat.toDigits 16 n)

/-- How one character stands between the quotes. -/
def escapedChar (c : Char) : String :=
  match c with
  | '"' => "\\\""
  | '\\' => "\\\\"
  | '\n' => "\\n"
  | '\r' => "\\r"
  | '\t' => "\\t"
  | '\x00' => "\\0"
  | _ => if isUnprintable c then "\\u\x7b" ++ hexadecimal c.toNat ++ "\x7d" else c.toString

/-- The text between double quotes. -/
def quoted (s : String) : String :=
  "\"" ++ String.join (s.toList.map escapedChar) ++ "\""

/-- Items in square brackets. -/
def bracketed (items : List String) : String := "[" ++ ", ".intercalate items ++ "]"

/-- Named items in braces, each name quoted. -/
def braced (items : List (String × String)) : String :=
  "\x7b" ++ ", ".intercalate (items.map fun (name, item) => quoted name ++ ": " ++ item) ++ "\x7d"

/-- A record: its name, and its fields in braces. -/
def record (name : String) (fields : List (String × String)) : String :=
  name ++ " \x7b " ++ ", ".intercalate (fields.map fun (field, item) => field ++ ": " ++ item) ++
    " \x7d"

end Text

end ShipEmissions
