import ShipEmissions.Json.Reader
import ShipEmissions.Toml.Moment

/-!
# Tokens of configuration texts

`Toml.tokens?` cuts a text into words, quoted texts and marks. Comments are dropped, the ends of
lines are tokens, since they end assignments.

* A date and the time of day behind it are one word, though a blank stands between them.
* Between three quotation marks a text may have several lines. It may hold one or two marks in a
  row, and a backslash at the end of a line drops the blanks and line ends behind it.
-/

namespace ShipEmissions

namespace Toml

/-- A piece of a configuration text. A bracket says whether another one of its kind stands directly
before it. -/
inductive Token where
  | word (chars : List Char)
  | text (s : String)
  /-- A text between three quotation marks, which is no name. -/
  | lines (s : String)
  | equals
  | comma
  | openBracket (doubled : Bool)
  | closeBracket (doubled : Bool)
  | openBrace
  | closeBrace
  | lineEnd
  deriving DecidableEq

/-- The quotes that a text stands in: the mark, and whether three of them stand on each side. -/
structure Quotes where
  mark : Char
  tripled : Bool
  deriving DecidableEq

/-- Where in a token a text has been read to. Characters read so far stand last first. -/
inductive Scan where
  /-- Between tokens, behind this bracket or something else. -/
  | between (bracket : Option Char)
  | comment
  | word (done : List Char)
  /-- Behind a date and a blank. -/
  | gap (date : List Char)
  /-- Behind a quotation mark. -/
  | quote (mark : Char)
  /-- Behind two quotation marks. -/
  | quotes (mark : Char)
  /-- Behind the three quotation marks that open a text. -/
  | opened (mark : Char)
  /-- Between quotation marks. -/
  | text (quotes : Quotes) (done : List Char)
  /-- In a text between three marks, behind `count` marks, of which there are less than five. -/
  | marks (mark : Char) (count : Nat) (done : List Char)
  /-- Behind a backslash. -/
  | escape (tripled : Bool) (done : List Char)
  /-- In a code point of which `missing` digits are still to come. -/
  | code (tripled : Bool) (done : List Char) (missing value : Nat)
  /-- Behind a backslash and blanks, before the end of the line. -/
  | lastBlanks (done : List Char)
  /-- Behind a backslash and the end of its line, where blanks and line ends are dropped. -/
  | dropped (done : List Char)

/-- Whether a character may stand in a word. -/
def isWordChar (c : Char) : Bool :=
  c.isAlphanum || c == '_' || c == '-' || c == '+' || c == '.' || c == ':'

/-- Whether a character may not stand in comments and texts. -/
def isControl (c : Char) : Bool := (c.toNat < 0x20 && c != '\t') || c.toNat == 0x7f

/-- Reads one character outside words, texts and comments. -/
def stepBetween? (bracket : Option Char) (c : Char) : Option (Scan × List Token) :=
  match c with
  | ' ' => some (.between none, [])
  | '\t' => some (.between none, [])
  | '\n' => some (.between none, [.lineEnd])
  | '#' => some (.comment, [])
  | '"' => some (.quote '"', [])
  | '\'' => some (.quote '\'', [])
  | '=' => some (.between none, [.equals])
  | ',' => some (.between none, [.comma])
  | '[' => some (.between (some '['), [.openBracket (bracket == some '[')])
  | ']' => some (.between (some ']'), [.closeBracket (bracket == some ']')])
  | '\x7b' => some (.between none, [.openBrace])
  | '\x7d' => some (.between none, [.closeBrace])
  | c => if isWordChar c then some (.word [c], []) else none

/-- Puts a token before those that a step gives. -/
def behind? (token : Token) (step : Option (Scan × List Token)) : Option (Scan × List Token) :=
  step.map fun (s, tokens) => (s, token :: tokens)

/-- Reads one character between quotation marks. Only double ones give a backslash a meaning, and
only between three of them a line may end. -/
def stepText? (q : Quotes) (done : List Char) (c : Char) : Option (Scan × List Token) :=
  if c = q.mark then
    if q.tripled then some (.marks q.mark 1 done, [])
    else some (.between none, [.text (String.ofList done.reverse)])
  else if c = '\\' ∧ q.mark = '"' then some (.escape q.tripled done, [])
  else if isControl c ∧ ¬ (q.tripled ∧ c = '\n') then none
  else some (.text q (c :: done), [])

/-- The token of a text between three marks that ends with `count` marks, the last three of which
close it. -/
def closed (mark : Char) (count : Nat) (done : List Char) : Token :=
  .lines (String.ofList (List.replicate (count - 3) mark ++ done).reverse)

/-- Reads one character behind `count` marks in a text between three. -/
def stepMarks? (mark : Char) (count : Nat) (done : List Char) (c : Char) :
    Option (Scan × List Token) :=
  if c = mark then
    if count < 4 then some (.marks mark (count + 1) done, [])
    else some (.between none, [closed mark (count + 1) done])
  else if count < 3 then stepText? ⟨mark, true⟩ (List.replicate count mark ++ done) c
  else behind? (closed mark count done) (stepBetween? none c)

/-- The character that a letter behind a backslash stands for. -/
def escaped? : Char → Option Char
  | '"' => some '"'
  | '\\' => some '\\'
  | 'b' => some '\x08'
  | 'f' => some '\x0c'
  | 'n' => some '\n'
  | 'r' => some '\r'
  | 't' => some '\t'
  | _ => none

/-- Reads one character behind a backslash. -/
def stepEscape? (tripled : Bool) (done : List Char) (c : Char) : Option (Scan × List Token) :=
  if c = 'u' then some (.code tripled done 4 0, [])
  else if c = 'U' then some (.code tripled done 8 0, [])
  else if tripled ∧ c = '\n' then some (.dropped done, [])
  else if tripled ∧ (c = ' ' ∨ c = '\t') then some (.lastBlanks done, [])
  else (escaped? c).map fun e => (.text ⟨'"', tripled⟩ (e :: done), [])

/-- Reads one digit of a code point, which has to be that of a character. -/
def stepCode? (tripled : Bool) (done : List Char) (missing value : Nat) (c : Char) :
    Option (Scan × List Token) := do
  let d ← Json.hexDigit? c
  let value := 16 * value + d
  if 1 < missing then return (.code tripled done (missing - 1) value, [])
  else if value.isValidChar then return (.text ⟨'"', tripled⟩ (Char.ofNat value :: done), [])
  else none

/-- Reads one character. The tokens it completes come with the new state; `none` if no text goes on
like this. -/
def Scan.step? (s : Scan) (c : Char) : Option (Scan × List Token) :=
  match s with
  | .between bracket => stepBetween? bracket c
  | .comment =>
    if c = '\n' then some (.between none, [.lineEnd])
    else if isControl c then none
    else some (.comment, [])
  | .word done =>
    if isWordChar c then some (.word (c :: done), [])
    else if c = ' ' ∧ isDate done.reverse then some (.gap done, [])
    else behind? (.word done.reverse) (stepBetween? none c)
  | .gap date =>
    if c.isDigit then some (.word (c :: ' ' :: date), [])
    else behind? (.word date.reverse) (stepBetween? none c)
  | .quote mark => if c = mark then some (.quotes mark, []) else stepText? ⟨mark, false⟩ [] c
  | .quotes mark =>
    if c = mark then some (.opened mark, []) else behind? (.text "") (stepBetween? none c)
  | .opened mark =>
    if c = '\n' then some (.text ⟨mark, true⟩ [], []) else stepText? ⟨mark, true⟩ [] c
  | .text q done => stepText? q done c
  | .marks mark count done => stepMarks? mark count done c
  | .escape tripled done => stepEscape? tripled done c
  | .code tripled done missing value => stepCode? tripled done missing value c
  | .lastBlanks done =>
    if c = ' ' ∨ c = '\t' then some (.lastBlanks done, [])
    else if c = '\n' then some (.dropped done, [])
    else none
  | .dropped done =>
    if c = ' ' ∨ c = '\t' ∨ c = '\n' then some (.dropped done, [])
    else stepText? ⟨'"', true⟩ done c

/-- The text with a single character at the end of each line. -/
def unifiedLines : List Char → List Char
  | '\r' :: '\n' :: rest => '\n' :: unifiedLines rest
  | c :: rest => c :: unifiedLines rest
  | [] => []

/-- The text without the mark that texts may start with. -/
def withoutMark : List Char → List Char
  | '\ufeff' :: rest => rest
  | text => text

/-- The tokens of a text, the last being the end of a line. -/
def tokens? (text : List Char) : Option (List Token) := do
  let lines := unifiedLines (withoutMark text) ++ ['\n']
  let (s, done) ← lines.foldlM (fun (state : Scan × List Token) c =>
    (state.1.step? c).map fun (s, tokens) => (s, tokens.reverse ++ state.2)) (Scan.between none, [])
  match s with
  | .between _ => return done.reverse
  | _ => none

end Toml

end ShipEmissions
