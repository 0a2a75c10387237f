import ShipEmissions.Criterion.Build
import ShipEmissions.Rule.Basic

/-!
# Reading rules

A rule is an object whose field `match_criteria` holds a criterion for each name; all other fields
are its data. A criterion is written as

* a single value, which the attribute has to equal;
* an object with `ge` and `lt`, the bounds of an interval;
* an object with `any_of`, a list of criteria on the same name.

Documents are expected in normalized form.
-/

namespace ShipEmissions

namespace Rule

mutual

/-- The criterion that a document spells for a name. An object with both bounds is an interval
whatever else it holds. -/
def criterion? (names : Names) (name : String) : Json → Except Error Criterion
  | .object fields =>
    match fields.lookup "ge", fields.lookup "lt" with
    | some ge, some lt =>
      match ge.number?, lt.number? with
      | some lower, some upper => Criterion.within? names name lower upper
      | _, _ => .error (.boundsRefused name (.object fields))
    | _, _ =>
      match alternatives? names name fields with
      | some criteria => criteria.bind fun cs => Criterion.anyOf? names name cs
      | none => .error (.specRefused name (.object fields))
  | doc =>
    match Value.ofJson? doc with
    | some value => Criterion.equals? names name value
    | none => .error (.constantNotScalar name (.notScalar doc))

/-- The alternatives that the field `any_of` lists; `none` without a list there. -/
def alternatives? (names : Names) (name : String) :
    Json.Fields → Option (Except Error (List Criterion))
  | [] => none
  | (key, .array items) :: rest =>
    if key == "any_of" then some (criteria? names name items) else alternatives? names name rest
  | (key, _) :: rest => if key == "any_of" then none else alternatives? names name rest

/-- The criteria that several documents spell for one name. -/
def criteria? (names : Names) (name : String) : List Json → Except Error (List Criterion)
  | [] => .ok []
  | doc :: docs =>
    (criterion? names name doc).bind fun c => (criteria? names name docs).map fun cs => c :: cs

end

/-- The field that holds the criteria of a rule. -/
def criteriaKey : String := "match_criteria"

/-- The rule that a document spells. -/
def ofJson? (names : Names) (doc : Json) : Except Error (Rule Json.Fields) :=
  match doc.fields? with
  | none => .error (.ruleNotObject doc)
  | some fields =>
    match (fields.lookup criteriaKey).bind Json.fields? with
    | none => .error (.criteriaMissing doc)
    | some specs =>
      (specs.mapM fun (name, spec) => criterion? names name spec).map fun criteria =>
        ⟨criteria, fields.filter fun (key, _) => key != criteriaKey⟩

/-- The rules that a list of documents spells. -/
def listOfJson? (names : Names) (doc : Json) : Except Error (List (Rule Json.Fields)) :=
  match doc.items? with
  | none => .error (.rulesNotList doc)
  | some docs => docs.mapM (ofJson? names)

/-- The lists of rules that the fields of an object spell. -/
def namedOfJson? (names : Names) (doc : Json) :
    Except Error (List (String × List (Rule Json.Fields))) :=
  match doc.fields? with
  | none => .error (.namedRulesNotObject doc)
  | some fields =>
    fields.mapM fun (name, rules) => (listOfJson? names rules).map fun rules => (name, rules)

/-- A number in the data of a rule. -/
def number? (r : Rule Json.Fields) (key : String) : Option Float :=
  (r.data.lookup key).bind Json.number?

/-- A single value in the data of a rule. -/
def value? (r : Rule Json.Fields) (key : String) : Option Value :=
  (r.data.lookup key).bind Value.ofJson?

/-- The rule with its data read as something else; data that cannot be is shown whole. -/
def typed? {δ : Type} (read : Json.Fields → Option δ) (r : Rule Json.Fields) :
    Except Error (Rule δ) :=
  r.mapData? fun data =>
    match read data with
    | some read => .ok read
    | none => .error (.dataRefused (.object data))

end Rule

end ShipEmissions
