import CatalogSearch.Document
import CatalogSearch.Engine.Dialogue
import CatalogSearch.Engine.Log
import CatalogSearch.Engine.Request
import CatalogSearch.Json.Printer
import CatalogSearch.Response
import CatalogSearch.Settings.Basic

namespace CatalogSearch

inductive Call where
  | select (body : Value)
  | update (id body : Value)
  | clear  (body : Value)
  deriving DecidableEq

structure Engine where
  tuning     : Tuning := {}
  registry   : Registry := {}
  recency    : Option Recency := none
  scoreFirst : Bool := false
  workers    : Value := .int 1

structure SearchResult where
  facets     : List FacetField
  total      : Int
  productIds : List String

structure Findings where
  response : Response
  total    : Int
  facets   : List FacetField

-- The result of a search, once the facets of the selected codes are there. Products are read last.
def Findings.result (f : Findings) (selected : List (List FacetField)) : Except Misuse SearchResult := do
  return { facets := f.facets ++ selected.flatten, total := f.total, productIds := ← f.response.productIds }

namespace Engine

abbrev Conversation := Dialogue LogLine Call fun _ => Value

def tuningOf (s : Settings) : Except Misuse Tuning := do
  return { searchFields := ← s.fullTextFields.items, phraseField := ← Json.nameOf s.phraseField }

-- The engine that settings describe. A boost of recent documents needs to know the date.
def ofSettings (s : Settings) (registry : Registry) (today : Option Date) : Except Misuse Engine := do
  let recency ←
    if s.recencyEnabled.holds then
      match today with
      | none       => throw .badValue
      | some today =>
        pure <| some { today, field := ← Json.nameOf s.recencyField, tiers := s.recencyTiers }
    else pure none
  return {
    registry, recency
    tuning     := ← tuningOf s
    scoreFirst := s.sortByScoreFirst.holds
    workers    := s.siblingWorkers }

def sort (e : Engine) (options : SearchOptions) : List SortKey :=
  (if e.scoreFirst then [⟨"_score", "desc"⟩] else []) ++ options.sort.toList

def request (e : Engine) (criteria : Value) (options : SearchOptions) (selection : Selection) :
    Except Error Request := do
  let query ← Query.build {
    criteria, selection
    context  := options.context
    registry := e.registry
    boost    := e.recency
    tuning   := e.tuning }
  return {
    query
    aggregations := FacetRequest.aggregations options.facets
    size         := options.rows
    start        := ← options.page.times options.rows
    sort         := e.sort options }

def source : String := "facet_search.elasticsearch.engine"

def debug (text : String) : Conversation Unit :=
  .remark ⟨.debug, source, text⟩

-- Sends the request for a selection. A reply that does not tell the number of hits is no answer.
def search (e : Engine) (criteria : Value) (options : SearchOptions) (selection : Selection) :
    Conversation (Response × Int) := do
  let body := (← e.request criteria options selection).toValue
  debug <| "Elasticsearch request: " ++ body.text
  let response ← Response.ofReply (← .question (.select body))
  let total ← (liftM response.total : Except Error Int)
  debug <| "Elasticsearch returned " ++ intText total ++ " hits"
  return (response, total)

def main (e : Engine) (criteria : Value) (options : SearchOptions) : Conversation Findings := do
  let (response, total) ← e.search criteria options options.selection
  return { response, total, facets := ← response.facetFields e.registry options.selection.keys }

def siblingFacets (e : Engine) (criteria : Value) (options : SearchOptions) (code : String) :
    Conversation (List FacetField) := do
  let remaining := options.selection.erase code
  debug <| "Querying sibling facets of " ++ code
  let (response, _) ← e.search criteria options remaining
  let fields ← response.facetFields e.registry remaining.keys
  return fields.filter (·.code = code)

def siblings (e : Engine) (criteria : Value) (options : SearchOptions) : List (Conversation (List FacetField)) :=
  options.selection.keys.map (e.siblingFacets criteria options)

def attemptAll : List (Conversation α) → Conversation (List (Except Error α))
  | []      => return []
  | d :: ds => return (← d.attempt) :: (← attemptAll ds)

def inTurn : List (Conversation α) → Conversation (List α)
  | []      => return []
  | d :: ds => return (← d) :: (← inTurn ds)

-- All at once. The first failure in the order of the list is the failure of all.
def together (ds : List (Conversation α)) : Conversation (List α) := do
  (← attemptAll ds).mapM (liftM ·)

def gather (e : Engine) (ds : List (Conversation α)) : Conversation (List α) := do
  let order ← (liftM (e.workers.compareInt? 1) : Except Error _)
  if order = some .gt ∧ 1 < ds.length then together ds else inTurn ds

def query (e : Engine) (criteria : Value) (options : SearchOptions) : Conversation SearchResult := do
  let found ← e.main criteria options
  let selected ← e.gather (e.siblings criteria options)
  (liftM (found.result selected) : Except Error _)

def addDocument (d : Document) : Conversation Unit := do
  let body ← (liftM d.body : Except Error _)
  let id := (body.get? "id").getD .null
  debug <| "Indexing document " ++ id.text
  discard <| .question (.update id (.ofMap body))

def clearBody : Value :=
  objectOf "query" (objectOf "match_all" (.object []))

def clear : Conversation Unit := do
  .remark ⟨.info, source, "Clearing search index"⟩
  discard <| .question (.clear clearBody)

end Engine
end CatalogSearch
