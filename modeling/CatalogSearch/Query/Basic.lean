import CatalogSearch.Criteria.Basic
import CatalogSearch.Facet.Filter
import CatalogSearch.Query.Context
import CatalogSearch.Query.Recency

namespace CatalogSearch

structure Query where
  criteria : Clause Atom
  context  : Clause Atom
  filters  : Clause Atom
  boost    : Option (List RecencyClause)

structure QueryInput where
  criteria  : Value := .null
  context   : Context := ∅
  selection : Selection := ∅
  registry  : Registry := {}
  boost     : Option Recency := none
  tuning    : Tuning := {}

namespace Query

def filtersClause (selection : Selection) (registry : Registry) : Except Misuse (Clause Atom) := do
  match ← selection.clauses registry id with
  | []      => return .anything
  | clauses => return .group .filter clauses

def build (input : QueryInput) : Except Error Query := do
  let criteria ← Criteria.compile input.tuning input.criteria
  let filters ← filtersClause input.selection input.registry
  let boost ← input.boost.mapM fun recency => recency.clauses
  return { criteria, filters, boost, context := input.context.clause }

def toValue (q : Query) : Value :=
  objectOf "bool" <| .object <|
    ("filter", .list [q.criteria.toValue, q.context.toValue, q.filters.toValue]) ::
    match q.boost with
    | some clauses => [("should", .list (clauses.map (·.toValue)))]
    | none         => []

end Query

structure QueryState where
  input : QueryInput
  built : Option Query := none

inductive QueryStep where
  | setCriteria  (criteria : Value)
  | setContext   (context : Context)
  | setBoost     (boost : Option Recency)
  | setFilter    (code : String) (values : Value)
  | addTransform (code : String) (transformation : Transformation := .rangeTokens)
  | build

namespace QueryState

inductive Answer where
  | done
  | query (outcome : Except Error Query) (cached : Bool)

def step (s : QueryState) : QueryStep → QueryState × Answer
  | .setCriteria criteria    => ({ s with input.criteria := criteria }, .done)
  | .setContext context      => ({ s with input.context := context }, .done)
  | .setBoost boost          => ({ s with input.boost := boost }, .done)
  | .setFilter code values   =>
    ({ s with input.selection := s.input.selection.insert code values }, .done)
  | .addTransform code t     =>
    ({ s with input.registry := s.input.registry.insert code t }, .done)
  | .build =>
    match s.built with
    | some query => (s, .query (.ok query) true)
    | none       =>
      match Query.build s.input with
      | .ok query => ({ s with built := some query }, .query (.ok query) false)
      | .error e  => (s, .query (.error e) false)

def run (s : QueryState) : List QueryStep → List Answer
  | []            => []
  | step :: steps =>
    let (s, answer) := s.step step
    answer :: s.run steps

end QueryState
end CatalogSearch
