import CatalogSearch.Clause.Basic
import CatalogSearch.Facet.Range

namespace CatalogSearch

inductive FacetRequest where
  | terms  (code : String)
  | ranges (code : String) (ranges : List FacetRange)

namespace FacetRequest

def code : FacetRequest → String
  | terms code    => code
  | ranges code _ => code

def isRanged : FacetRequest → Bool
  | terms _    => false
  | ranges _ _ => true

def boundsValue (r : FacetRange) : Value :=
  .object <|
    (if r.lower = .null then [] else [("from", r.lower)]) ++
    (if r.upper = .null then [] else [("to", r.upper)])

-- A ranged facet without ranges is counted in one range that is open on both sides.
def aggregation : FacetRequest → Value
  | terms code        => objectOf "terms" (objectOf "field" (.str code))
  | ranges code parts => objectOf "range" <| .object [
      ("field", .str code),
      ("ranges", .list <| if parts.isEmpty then [.object []] else parts.map boundsValue)]

-- The aggregations by code. A repeated code keeps its first position and takes its last definition.
def aggregations (facets : List FacetRequest) : OrderedMap Value :=
  .ofList <| facets.map fun facet => (facet.code, facet.aggregation)

end FacetRequest
end CatalogSearch
