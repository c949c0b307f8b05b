import CatalogSearch.CommandLine.Options
import CatalogSearch.Engine.Request
import CatalogSearch.Json.Reader
import CatalogSearch.Text.Blank
import CatalogSearch.Text.Split

namespace CatalogSearch.CommandLine

inductive SearchOption where
  | filter
  | facet
  | rangeFacet
  | context
  | rows
  | page
  | sort
  | dryRun
  | help
  deriving DecidableEq

structure SearchArguments where
  criteria    : String := ""
  filters     : List String := []
  facets      : List String := []
  rangeFacets : List String := []
  contexts    : List String := []
  rows        : Int := 20
  page        : Int := 0
  sort        : Option String := none
  dryRun      : Bool := false

structure SearchOrder where
  criteria : Value := .null
  options  : SearchOptions := {}
  registry : Registry := {}

namespace SearchArguments

def forms : List (OptionForm SearchOption) := [
    { key := .filter,     names := ["--filter", "-f"], takesValue := true },
    { key := .facet,      names := ["--facet"],        takesValue := true },
    { key := .rangeFacet, names := ["--range-facet"],  takesValue := true },
    { key := .context,    names := ["--context"],      takesValue := true },
    { key := .rows,       names := ["--rows"],         takesValue := true },
    { key := .page,       names := ["--page"],         takesValue := true },
    { key := .sort,       names := ["--sort"],         takesValue := true },
    { key := .dryRun,     names := ["--dry-run"] },
    { key := .help,       names := ["--help"] }
  ]

def rowsOf (g : Given SearchOption) : Except UsageError Int :=
  ((g.value? .rows).map (numberOf "--rows" 1)).getD (.ok 20)

def pageOf (g : Given SearchOption) : Except UsageError Int :=
  ((g.value? .page).map (numberOf "--page" 0)).getD (.ok 0)

-- Numbers are checked in the order in which their options appear.
def checkNumbers (g : Given SearchOption) : Except UsageError Unit :=
  g.keys.forM fun
    | .rows => discard (rowsOf g)
    | .page => discard (pageOf g)
    | _     => return

def ofGiven (g : Given SearchOption) : Except UsageError SearchArguments := do
  checkNumbers g
  let extra := g.rest.drop 1
  unless extra.isEmpty do throw <| .extraArguments extra
  return {
    criteria    := g.rest.head?.getD ""
    filters     := g.values .filter
    facets      := g.values .facet
    rangeFacets := g.values .rangeFacet
    contexts    := g.values .context
    rows        := ← rowsOf g
    page        := ← pageOf g
    sort        := g.value? .sort
    dryRun      := g.has .dryRun }

def criteriaOf (nesting : Nat) (text : String) : Except CallError Value :=
  if strip text = "" then .ok .null
  else
    match Json.read text nesting with
    | .ok (.object ms) => .ok (.object ms)
    | .ok _            => .error <| .usage <| .invalidValue "CRITERIA" "must be a JSON object"
    | .error fault     => .error <|
      (fault.misuse?.map CallError.misuse).getD (.usage <| .invalidValue "CRITERIA" "not valid JSON")

def rangeOf (token : String) : Except UsageError FacetRange :=
  match FacetRange.ofToken? token with
  | some range => .ok range
  | none       => .error <| .invalidValue "--range-facet" (quoted token ++ " is not a range like 10-20")

-- The ranges between commas. Nothing between two commas is no range.
def rangesOf (tokens : String) : Except UsageError (List FacetRange) :=
  (splitOn ',' tokens.toList).filter (· ≠ []) |>.mapM fun token => rangeOf (String.ofList token)

def rangeFacetOf (text : String) : Except UsageError FacetRequest := do
  let (code, tokens) ← pairOf "--range-facet" text
  return .ranges code (← rangesOf tokens)

def facetsOf (facets rangeFacets : List String) : Except UsageError (List FacetRequest × Registry) := do
  let ranged ← rangeFacets.mapM rangeFacetOf
  return (facets.map .terms ++ ranged, (ranged.map (·.code)).foldl .register {})

def select (selection : Selection) (code value : String) : Selection :=
  let selected := match selection.get? code with
    | some (.list values) => values
    | _                   => []
  selection.insert code (.list (selected ++ [.str value]))

def selectionOf (filters : List String) : Except UsageError Selection := do
  let pairs ← filters.mapM (pairOf "--filter")
  return pairs.foldl (fun selection (code, value) => select selection code value) ∅

def contextOf (contexts : List String) : Except UsageError Context := do
  let pairs ← contexts.mapM (pairOf "--context")
  return .ofList <| pairs.map fun (code, value) => (code, .str value)

def sortKeyOf (text : String) : Except UsageError SortKey :=
  let code := String.ofList (text.toList.takeWhile (· ≠ ':'))
  match String.ofList (text.toList.dropWhile (· ≠ ':')).tail with
  | "" | "asc" => .ok { code }
  | "desc"     => .ok { code, direction := "desc" }
  | direction  =>
    .error <| .invalidValue "--sort" ("direction must be asc or desc, got " ++ quoted direction)

def order (a : SearchArguments) (nesting : Nat) : Except CallError SearchOrder := do
  let criteria ← criteriaOf nesting a.criteria
  let (facets, registry) ← facetsOf a.facets a.rangeFacets
  let selection ← selectionOf a.filters
  let context ← contextOf a.contexts
  let sort ← (a.sort.mapM sortKeyOf : Except UsageError _)
  return {
    criteria, registry
    options := { context, selection, facets, rows := .int a.rows, page := .int a.page, sort } }

end SearchArguments
end CatalogSearch.CommandLine
