import ShipEmissions.Toml.Scalar
import ShipEmissions.Toml.Table
import ShipEmissions.Toml.Token

/-!
# Reading configuration texts

A configuration text assigns values to names, line by line, and headers say which table the lines
below them belong to. `Toml.read?` gives the document that a text describes. Its numbers may be
infinite or no numbers at all, which documents cannot be; `Toml.finite` makes null of them.

Values and paths that reach `depthLimit` are refused.
-/

namespace ShipEmissions

namespace Toml

/-- Lists and inline tables stand in fewer than this many others, and paths have fewer names. -/
def depthLimit : Nat := 80

/-! ## Names -/

/-- A piece of a path: a name, or the point between two names. -/
inductive PathPart where
  | name (s : String)
  | point

/-- Whether a character may stand in a name without quotes. -/
def isNameChar (c : Char) : Bool := c.isAlphanum || c == '_' || c == '-'

/-- The pieces of a word; `read` holds the characters of the name so far, last first. -/
def wordParts? : (read : List Char) → List Char → Option (List PathPart)
  | [], [] => some []
  | read, [] => some [.name (String.ofList read.reverse)]
  | [], '.' :: rest => (wordParts? [] rest).map fun parts => .point :: parts
  | read, '.' :: rest =>
    (wordParts? [] rest).map fun parts => .name (String.ofList read.reverse) :: .point :: parts
  | read, c :: rest => if isNameChar c then wordParts? (c :: read) rest else none

/-- The pieces of a path that a token is. -/
def Token.parts? : Token → Option (List PathPart)
  | .word chars => wordParts? [] chars
  | .text s => some [.name s]
  | _ => none

/-- The path of names with points between them; `parents` holds the names so far, last first. -/
def Path.ofParts? (parents : List String) : List PathPart → Option Path
  | [.name s] => if parents.length + 1 < depthLimit then some ⟨parents.reverse, s⟩ else none
  | .name s :: .point :: rest => ofParts? (s :: parents) rest
  | _ => none

/-! ## Values -/

/-- A value that is not complete: an assignment, a list, or an inline table. Items of a list stand
last first. -/
inductive Frame where
  | assignment (path : Path)
  | items (done : List Json)
  | members (done : Table) (path : Path)

/-- What has been read of a line, and what may follow. -/
inductive Stage where
  /-- A line starts. -/
  | start
  /-- A bracket starts a header. -/
  | bracket
  /-- In a header. -/
  | header (isList : Bool) (done : List PathPart)
  /-- A header of a list of tables lacks its second bracket. -/
  | closing (path : Path)
  /-- In the name that a value is assigned to. -/
  | name (done : List PathPart)
  /-- A value must follow. -/
  | value (frames : List Frame)
  /-- A value or the end of the list must follow. -/
  | item (done : List Json) (frames : List Frame)
  /-- A comma or the end of the list must follow. -/
  | afterItem (done : List Json) (frames : List Frame)
  /-- An inline table has opened: a name or its end must follow. -/
  | firstMember (frames : List Frame)
  /-- In the name of a member of an inline table. -/
  | member (done : Table) (parts : List PathPart) (frames : List Frame)
  /-- A comma or the end of the inline table must follow. -/
  | afterMember (done : Table) (frames : List Frame)
  /-- The line must end. -/
  | complete

/-- What a line or a header says. -/
inductive Statement where
  | assignment (path : Path) (doc : Json)
  | table (path : Path)
  | tables (path : Path)

/-- What follows a complete value. -/
def complete? (doc : Json) : List Frame → Option (Stage × Option Statement)
  | [.assignment path] => some (.complete, some (.assignment path doc))
  | .items done :: frames => some (.afterItem (doc :: done) frames, none)
  | .members done path :: frames =>
    (done.assign? doc path).map fun done => (.afterMember done frames, none)
  | _ => none

/-- Reads the token that a value starts with. The frames are the assignment and what is open in
it. -/
def beginValue? (frames : List Frame) : Token → Option (Stage × Option Statement)
  | .word chars => (ofWord? chars).bind fun doc => complete? doc frames
  | .text s => complete? (.text s) frames
  | .lines s => complete? (.text s) frames
  | .openBracket _ => if frames.length < depthLimit then some (.item [] frames, none) else none
  | .openBrace => if frames.length < depthLimit then some (.firstMember frames, none) else none
  | _ => none

/-- Reads one token; `none` if no text goes on like this. A statement comes with the token that
completes it. -/
def Stage.step? : Stage → Token → Option (Stage × Option Statement)
  | .start, .lineEnd => some (.start, none)
  | .start, .openBracket _ => some (.bracket, none)
  | .start, token => token.parts?.map fun parts => (.name parts, none)
  | .bracket, .openBracket true => some (.header true [], none)
  | .bracket, token => token.parts?.map fun parts => (.header false parts, none)
  | .header false done, .closeBracket _ =>
    (Path.ofParts? [] done).map fun path => (.complete, some (.table path))
  | .header true done, .closeBracket _ =>
    (Path.ofParts? [] done).map fun path => (.closing path, none)
  | .header isList done, token =>
    token.parts?.map fun parts => (.header isList (done ++ parts), none)
  | .closing path, .closeBracket true => some (.complete, some (.tables path))
  | .name done, .equals =>
    (Path.ofParts? [] done).map fun path => (.value [.assignment path], none)
  | .name done, token => token.parts?.map fun parts => (.name (done ++ parts), none)
  | .value frames, token => beginValue? frames token
  | .item done frames, .lineEnd => some (.item done frames, none)
  | .item done frames, .closeBracket _ => complete? (.array done.reverse) frames
  | .item done frames, token => beginValue? (.items done :: frames) token
  | .afterItem done frames, .lineEnd => some (.afterItem done frames, none)
  | .afterItem done frames, .comma => some (.item done frames, none)
  | .afterItem done frames, .closeBracket _ => complete? (.array done.reverse) frames
  | .firstMember frames, .closeBrace => complete? (.object []) frames
  | .firstMember frames, token => token.parts?.map fun parts => (.member [] parts frames, none)
  | .member done parts frames, .equals =>
    (Path.ofParts? [] parts).map fun path => (.value (.members done path :: frames), none)
  | .member done parts frames, token =>
    token.parts?.map fun more => (.member done (parts ++ more) frames, none)
  | .afterMember done frames, .comma => some (.member done [] frames, none)
  | .afterMember done frames, .closeBrace => complete? done.toJson frames
  | .complete, .lineEnd => some (.start, none)
  | _, _ => none

/-- The statements of tokens. -/
def statements? (tokens : List Token) : Option (List Statement) := do
  let (stage, done) ← tokens.foldlM (fun (state : Stage × List Statement) token =>
    (state.1.step? token).map fun (stage, statement) => (stage, statement.toList ++ state.2))
    (Stage.start, [])
  match stage with
  | .start => return done.reverse
  | _ => none

/-! ## Sections -/

/-- The table that the assignments below a header belong to: the whole, a table by its path, or a
further table of a list. -/
inductive Target where
  | whole
  | table (path : Path)
  | tables (path : Path)

/-- A header and the table below it. -/
structure Section where
  target : Target
  table : Table

/-- The section that a header starts. A table that other headers imply keeps what it holds. -/
def Section.start? (whole : Table) : Target → Option Section
  | .table path => (whole.implied? path.name path.parents).map fun table => ⟨.table path, table⟩
  | target => some ⟨target, []⟩

/-- The whole table with that of a section put where it belongs. -/
def Section.place? (s : Section) (whole : Table) : Option Table :=
  match s.target with
  | .whole => some s.table
  | .table path => whole.define? (fun _ => some (.table .header s.table)) path.name path.parents
  | .tables path => whole.define? (Table.extended? s.table) path.name path.parents

/-- Ends a section and starts the next. -/
def Section.next? (whole : Table) (s : Section) (target : Target) : Option (Table × Section) := do
  let whole ← s.place? whole
  let s ← Section.start? whole target
  return (whole, s)

/-- Reads one statement, with the whole table of the sections before and the current section. -/
def step? : Table × Section → Statement → Option (Table × Section)
  | (whole, s), .assignment path doc =>
    (s.table.assign? doc path).map fun table => (whole, { s with table })
  | (whole, s), .table path => s.next? whole (.table path)
  | (whole, s), .tables path => s.next? whole (.tables path)

/-- The table that statements describe. -/
def ofStatements? (statements : List Statement) : Option Table := do
  let (whole, last) ← statements.foldlM step? ([], ⟨.whole, []⟩)
  last.place? whole

/-- The document that a text describes, in normalized form. -/
def read? (text : String) : Option Json := do
  let tokens ← tokens? text.toList
  let statements ← statements? tokens
  let table ← ofStatements? statements
  return table.toJson.normalized

/-! ## Finite numbers -/

mutual

/-- The document with null for every number that is not finite. -/
def finite : Json → Json
  | .number (.decimal x) => .ofFloat x
  | .array items => .array (finiteItems items)
  | .object fields => .object (finiteFields fields)
  | doc => doc

/-- The items of a list, each with finite numbers. -/
def finiteItems : List Json → List Json
  | [] => []
  | item :: items => finite item :: finiteItems items

/-- The fields of an object, each with finite numbers. -/
def finiteFields : Json.Fields → Json.Fields
  | [] => []
  | (name, value) :: fields => (name, finite value) :: finiteFields fields

end

end Toml

end ShipEmissions
