import ShipEmissions.Json.Number

/-!
# Documents as written

A document text is taken apart in two passes, each one step a character or token, with the state in
a value of its own. `Json.tokens?` cuts the text into tokens, `Json.ofTokens?` builds the tree with
a stack of the lists and objects that are still open.

What numbers and texts stand for is not asked here: a number may lie beyond all floating-point
numbers, a text may hold half a pair of code units, and lists may stand in each other to any depth.
So a reader can pass over parts of a document that it has no use for. `Written.ofText?` gives the
tree of a text that is written correctly.
-/

namespace ShipEmissions

namespace Json

/-- A piece of a text: a character, or a code unit written by its number. -/
inductive Piece where
  | char (c : Char)
  | unit (n : Nat)
  deriving DecidableEq, Repr

/-- A document as written. -/
inductive Written where
  | null
  | boolean (b : Bool)
  | number (d : Decimal)
  | text (pieces : List Piece)
  | array (items : List Written)
  | object (fields : List (List Piece × Written))
  deriving Inhabited

/-- What a bare word is: a name of a value, or a number. -/
def Written.ofWord? (word : List Char) : Option Written :=
  if word = "null".toList then some .null
  else if word = "true".toList then some (.boolean true)
  else if word = "false".toList then some (.boolean false)
  else (Decimal.split word).bind fun d => if Number.wellFormed d then some (.number d) else none

/-! ## Tokens -/

/-- A piece of a document text. -/
inductive Token where
  | openArray
  | closeArray
  | openObject
  | closeObject
  | colon
  | comma
  | scalar (value : Written)

/-- Where in a token a text has been read to. What has been read so far stands last first. -/
inductive Scan where
  /-- Between tokens. -/
  | between
  /-- In a number or a word. -/
  | word (done : List Char)
  /-- Between quotes. -/
  | text (done : List Piece)
  /-- Behind a backslash. -/
  | escape (done : List Piece)
  /-- In the number of a code unit, of which `digits` have been read. -/
  | code (done : List Piece) (digits : List Char)

/-- The value of a hexadecimal digit. -/
def hexDigit? (c : Char) : Option Nat :=
  if c.isDigit then some (c.toNat - '0'.toNat)
  else if 'a' ≤ c ∧ c ≤ 'f' then some (c.toNat - 'a'.toNat + 10)
  else if 'A' ≤ c ∧ c ≤ 'F' then some (c.toNat - 'A'.toNat + 10)
  else none

/-- The value of hexadecimal digits, highest first. -/
def hexValue? (digits : List Char) : Option Nat :=
  digits.foldlM (fun n c => (hexDigit? c).map (16 * n + ·)) 0

/-- The character that a letter behind a backslash stands for. -/
def escaped? : Char → Option Char
  | '"' => some '"'
  | '\\' => some '\\'
  | '/' => some '/'
  | 'b' => some '\x08'
  | 'f' => some '\x0c'
  | 'n' => some '\n'
  | 'r' => some '\r'
  | 't' => some '\t'
  | _ => none

/-- The token that a character is on its own, or none for a blank. -/
def mark? : Char → Option (List Token)
  | '[' => some [.openArray]
  | ']' => some [.closeArray]
  | '\x7b' => some [.openObject]
  | '\x7d' => some [.closeObject]
  | ':' => some [.colon]
  | ',' => some [.comma]
  | ' ' => some []
  | '\n' => some []
  | '\r' => some []
  | '\t' => some []
  | _ => none

/-- Reads one character outside words and quotes. -/
def stepBetween (c : Char) : Scan × List Token :=
  if c = '"' then (.text [], [])
  else match mark? c with
    | some tokens => (.between, tokens)
    | none => (.word [c], [])

/-- Reads one character. The tokens it completes come with the new state; `none` if no document
goes on like this. -/
def Scan.step? (s : Scan) (c : Char) : Option (Scan × List Token) :=
  match s with
  | .between => some (stepBetween c)
  | .word done =>
    if c = '"' ∨ (mark? c).isSome then
      (Written.ofWord? done.reverse).map fun value =>
        let (s, tokens) := stepBetween c
        (s, .scalar value :: tokens)
    else some (.word (c :: done), [])
  | .text done =>
    if c = '"' then some (.between, [.scalar (.text done.reverse)])
    else if c = '\\' then some (.escape done, [])
    else if c.toNat < 0x20 then none
    else some (.text (.char c :: done), [])
  | .escape done =>
    if c = 'u' then some (.code done [], [])
    else (escaped? c).map fun e => (.text (.char e :: done), [])
  | .code done digits =>
    if digits.length < 3 then some (.code done (c :: digits), [])
    else (hexValue? (c :: digits).reverse).map fun unit => (.text (.unit unit :: done), [])

/-- The tokens that the end of the text completes. -/
def Scan.finish? : Scan → Option (List Token)
  | .between => some []
  | .word done => (Written.ofWord? done.reverse).map fun value => [.scalar value]
  | _ => none

/-- The tokens of a text. -/
def tokens? (text : List Char) : Option (List Token) :=
  let read := text.foldlM (fun (state : Scan × List Token) c =>
    (state.1.step? c).map fun (s, tokens) => (s, tokens.reverse ++ state.2)) (Scan.between, [])
  read.bind fun (s, done) => s.finish?.map fun last => done.reverse ++ last

/-! ## Trees -/

/-- A list or an object that is still open. What it holds so far stands last first. -/
inductive Frame where
  | items (done : List Written)
  | members (done : List (List Piece × Written)) (name : List Piece)

/-- What has been read of a document, and what may follow. -/
inductive Stage where
  /-- A value must follow. -/
  | needValue (frames : List Frame)
  /-- A list has opened: a value or its end must follow. -/
  | needItem (frames : List Frame)
  /-- An object has opened: a name or its end must follow. -/
  | needFirstName (frames : List Frame)
  /-- The name of a further field must follow. -/
  | needName (done : List (List Piece × Written)) (frames : List Frame)
  /-- A colon must follow. -/
  | needColon (done : List (List Piece × Written)) (name : List Piece) (frames : List Frame)
  /-- A value is complete. -/
  | complete (value : Written) (frames : List Frame)

/-- Reads the token that a value starts with. -/
def Stage.begin? (frames : List Frame) : Token → Option Stage
  | .scalar value => some (.complete value frames)
  | .openArray => some (.needItem frames)
  | .openObject => some (.needFirstName frames)
  | _ => none

/-- Reads one token; `none` if no document goes on like this. -/
def Stage.step? : Stage → Token → Option Stage
  | .needValue frames, token => begin? frames token
  | .needItem frames, .closeArray => some (.complete (.array []) frames)
  | .needItem frames, token => begin? (.items [] :: frames) token
  | .needFirstName frames, .closeObject => some (.complete (.object []) frames)
  | .needFirstName frames, .scalar (.text name) => some (.needColon [] name frames)
  | .needName done frames, .scalar (.text name) => some (.needColon done name frames)
  | .needColon done name frames, .colon => some (.needValue (.members done name :: frames))
  | .complete value (.items done :: frames), .comma =>
    some (.needValue (.items (value :: done) :: frames))
  | .complete value (.items done :: frames), .closeArray =>
    some (.complete (.array (value :: done).reverse) frames)
  | .complete value (.members done name :: frames), .comma =>
    some (.needName ((name, value) :: done) frames)
  | .complete value (.members done name :: frames), .closeObject =>
    some (.complete (.object ((name, value) :: done).reverse) frames)
  | _, _ => none

/-- The document that tokens spell, if they spell exactly one. -/
def ofTokens? (tokens : List Token) : Option Written :=
  match tokens.foldlM Stage.step? (.needValue []) with
  | some (.complete value []) => some value
  | _ => none

/-- The document that a text spells, as written. -/
def Written.ofText? (text : String) : Option Written := (tokens? text.toList).bind ofTokens?

end Json

end ShipEmissions
