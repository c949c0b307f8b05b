import CatalogSearch.Clause.Operator
import CatalogSearch.Query.Recency

namespace CatalogSearch

structure Settings where
  url              : Value := .str "http://localhost:9200/products"
  timeout          : Value := .double (.ofDecimal false 30 0)
  fullTextFields   : Value := .list ({} : Tuning).searchFields
  phraseField      : Value := .str ({} : Tuning).phraseField
  sortByScoreFirst : Value := .bool false
  siblingWorkers   : Value := .int 1
  recencyEnabled   : Value := .bool false
  recencyField     : Value := .str "created_at"
  recencyTiers     : Value := Recency.defaultTiers
  coloredOutput    : Value := .bool true
  path             : Option String := none

namespace Settings

def startsWith (lead : String) (s : String) : Bool :=
  lead.toList.isPrefixOf s.toList

def checkUrl : Value → Except Error Unit
  | .str url =>
    if startsWith "http://" url || startsWith "https://" url then .ok ()
    else .error <| .settings <| .invalid "elasticsearch.url" "must be an http(s) URL"
  | _ => .error <| .misuse .noSuchPart

-- A time that is not a number is not refused.
def checkTimeout (timeout : Value) : Except Error Unit := do
  match ← timeout.compareInt? 0 with
  | some .lt | some .eq => throw <| .settings <| .invalid "elasticsearch.timeout" "must be positive"
  | _                   => return

def checkWorkers (workers : Value) : Except Error Unit := do
  match ← workers.compareInt? 1 with
  | some .lt => throw <| .settings <| .invalid "search.sibling_workers" "must be >= 1"
  | _        => return

def validate (s : Settings) : Except Error (List String) := do
  checkUrl s.url
  checkTimeout s.timeout
  checkWorkers s.siblingWorkers
  let fields :=
    if s.fullTextFields.holds then []
    else ["search.full_text_fields is empty; FullText criteria will match nothing"]
  let tiers :=
    if s.recencyEnabled.holds && !s.recencyTiers.holds then ["recency_boost is enabled but has no tiers"]
    else []
  return fields ++ tiers

end Settings
end CatalogSearch
