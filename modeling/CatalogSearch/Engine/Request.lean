import CatalogSearch.Facet.Request
import CatalogSearch.Query.Basic

namespace CatalogSearch

structure SortKey where
  code      : String
  direction : String := "asc"

structure SearchOptions where
  context   : Context := ∅
  selection : Selection := ∅
  facets    : List FacetRequest := []
  rows      : Value := .int 20
  page      : Value := .int 0
  sort      : Option SortKey := none

structure Request where
  query        : Query
  aggregations : OrderedMap Value
  size         : Value
  start        : Value
  sort         : List SortKey

namespace Request

def sortValue (key : SortKey) : Value :=
  objectOf key.code (objectOf "order" (.str key.direction))

def members (r : Request) : List (String × Value) :=
  [("query", r.query.toValue)] ++
  (if r.aggregations.isEmpty then [] else [("aggregations", .ofMap r.aggregations)]) ++
  [("size", r.size), ("from", r.start)] ++
  (if r.sort.isEmpty then [] else [("sort", .list (r.sort.map sortValue))])

def toValue (r : Request) : Value :=
  .object r.members

end Request
end CatalogSearch
