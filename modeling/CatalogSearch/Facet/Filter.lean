import CatalogSearch.Clause.Operator
import CatalogSearch.Facet.Escape
import CatalogSearch.Facet.Range
import CatalogSearch.Value.Access

namespace CatalogSearch

abbrev Selection := OrderedMap Value

def FacetRange.clause (field : String) (r : FacetRange) : Clause Atom :=
  if r.lower = .null then
    if r.upper = .null then .anything else Operator.bounded field .lte r.upper.text
  else if r.upper = .null then Operator.bounded field .gte r.lower.text
  else .group .filter
    [Operator.bounded field .gte r.lower.text, Operator.bounded field .lte r.upper.text]

namespace Selection

-- The clause of one selected value. Where tokens are decoded a value has to be one.
def valueClause (transformation? : Option Transformation) (field : String) (value : Value) :
    Except Misuse (Clause Atom) :=
  match transformation? with
  | none                => .ok <| Operator.equality field value
  | some transformation =>
    match value with
    | .str token =>
      match transformation.decode token with
      | .range r => .ok <| r.clause field
      | .plain s => .ok <| Operator.equality field (.str s)
    | _ => .error .wrongKind

def valueClauses (registry : Registry) (code field : String) (values : Value) :
    Except Misuse (List (Clause Atom)) := do
  (← values.items).mapM (valueClause (registry.find? code) field)

def entryClause? (registry : Registry) (rename : String → String) (code : String) (values : Value) :
    Except Misuse (Option (Clause Atom)) := do
  if values.holds then
    return some <| .group .should (← valueClauses registry code (rename code) values)
  else
    return none

-- One clause per code that has selected values. Codes name the fields after renaming, but are looked up
-- as they are.
def clauses (selection : Selection) (registry : Registry) (rename : String → String) :
    Except Misuse (List (Clause Atom)) := do
  let found ← selection.entries.mapM fun (code, values) => entryClause? registry rename code values
  return found.filterMap id

def escapedClauses (selection : Selection) (registry : Registry) : Except Misuse (List (Clause Atom)) :=
  selection.clauses registry Reserved.escape

end Selection
end CatalogSearch
