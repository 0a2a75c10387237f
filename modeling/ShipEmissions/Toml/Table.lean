import ShipEmissions.Json.Basic

/-!
# Tables of configuration texts

A table holds values, tables and lists of tables by name. Where a table comes from says what may
still be added to it:

* a header `[a.b]` defines the table `b` and implies the table `a`, which a later header may define;
* an assignment to `a.b` makes a table `a` to which only other assignments beside it add;
* an assignment may lead through tables that headers imply, but only a table that it makes, or that
  an assignment beside it has made, takes the value;
* of a list of tables, headers and assignments lead to the last.

No name is given a meaning twice.
-/

namespace ShipEmissions

namespace Toml

/-- Where a table comes from. -/
inductive Origin where
  /-- It holds a table that a header defines. -/
  | implied
  /-- A header defines it. -/
  | header
  /-- An assignment to a name in it makes it. -/
  | assignment
  deriving DecidableEq

/-- What a name in a table stands for. The last table of a list stands first. -/
inductive Node where
  | value (doc : Json)
  | table (origin : Origin) (fields : List (String × Node))
  | tables (done : List (List (String × Node)))

/-- What the names in a table stand for. -/
abbrev Table := List (String × Node)

/-- A name in a table that is reached through others. -/
structure Path where
  parents : List String
  name : String

namespace Table

/-- The table with a node by this name, in the place of one that was there. -/
def put (name : String) (node : Node) : Table → Table
  | [] => [(name, node)]
  | (key, other) :: rest =>
    if key == name then (name, node) :: rest else (key, other) :: put name node rest

/-- The table with a value assigned to a name below its parents. `takesValues` says whether the
table itself may take the value. -/
def assignBelow? (doc : Json) (name : String) :
    (takesValues : Bool) → (parents : List String) → Table → Option Table
  | takesValues, [], table =>
    if takesValues && (table.lookup name).isNone then some (put name (.value doc) table) else none
  | _, parent :: parents, table =>
    match table.lookup parent with
    | none =>
      (assignBelow? doc name true parents []).map fun inner =>
        put parent (.table .assignment inner) table
    | some (.table .assignment inner) =>
      (assignBelow? doc name true parents inner).map fun inner =>
        put parent (.table .assignment inner) table
    | some (.table .implied inner) =>
      (assignBelow? doc name false parents inner).map fun inner =>
        put parent (.table .implied inner) table
    | some (.tables (inner :: done)) =>
      (assignBelow? doc name false parents inner).map fun inner =>
        put parent (.tables (inner :: done)) table
    | _ => none

/-- The table with a value assigned to a path. -/
def assign? (doc : Json) (path : Path) (table : Table) : Option Table :=
  assignBelow? doc path.name true path.parents table

/-- The table with what a header stands for changed. -/
def define? (change : Option Node → Option Node) (name : String) :
    (parents : List String) → Table → Option Table
  | [], table => (change (table.lookup name)).map fun node => put name node table
  | parent :: parents, table =>
    match table.lookup parent with
    | none =>
      (define? change name parents []).map fun inner => put parent (.table .implied inner) table
    | some (.table origin inner) =>
      (define? change name parents inner).map fun inner => put parent (.table origin inner) table
    | some (.tables (inner :: done)) =>
      (define? change name parents inner).map fun inner =>
        put parent (.tables (inner :: done)) table
    | _ => none

/-- What a table that a header is about to define holds already, because other headers imply it. -/
def implied? (name : String) : (parents : List String) → Table → Option Table
  | [], table =>
    match table.lookup name with
    | none => some []
    | some (.table .implied inner) => some inner
    | _ => none
  | parent :: parents, table =>
    match table.lookup parent with
    | none => some []
    | some (.table _ inner) => implied? name parents inner
    | some (.tables (inner :: _)) => implied? name parents inner
    | _ => none

/-- A list of tables with a further one. -/
def extended? (fields : Table) : Option Node → Option Node
  | none => some (.tables [fields])
  | some (.tables done) => some (.tables (fields :: done))
  | _ => none

end Table

mutual

/-- A node as a document. -/
def Node.toJson : Node → Json
  | .value doc => doc
  | .table _ fields => .object (fieldsOf fields)
  | .tables done => .array (itemsOf done).reverse

/-- The nodes of a table as documents. -/
def fieldsOf : List (String × Node) → Json.Fields
  | [] => []
  | (name, node) :: rest => (name, node.toJson) :: fieldsOf rest

/-- The tables of a list as documents. -/
def itemsOf : List (List (String × Node)) → List Json
  | [] => []
  | fields :: rest => .object (fieldsOf fields) :: itemsOf rest

end

/-- A table as a document. -/
def Table.toJson (table : Table) : Json := .object (fieldsOf table)

end Toml

end ShipEmissions
