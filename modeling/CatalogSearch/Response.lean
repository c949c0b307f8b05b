import CatalogSearch.Facet.Range
import CatalogSearch.Json.Printer
import CatalogSearch.Value.Access

namespace CatalogSearch

structure FacetCount where
  value : String
  count : Value
  deriving DecidableEq

structure FacetField where
  code   : String
  counts : List FacetCount
  deriving DecidableEq

structure Response where
  reply : Value

namespace Response

def ofReply (reply : Value) : Except Error Response := do
  match ← reply.member? "error" with
  | none | some .null => return ⟨reply⟩
  | some _            => throw <| .engine (Json.text reply)

def hits (r : Response) : Except Misuse Value := do
  return (← r.reply.member? "hits").getD (.object [])

def total (r : Response) : Except Misuse Int := do
  let total := (← (← r.hits).member? "total").getD (.int 0)
  match total with
  | .object ms => ((ms.lookup "value").getD (.int 0)).toWhole
  | total      => total.toWhole

def productIds (r : Response) : Except Misuse (List String) := do
  let hits := (← (← r.hits).member? "hits").getD .null
  if hits.holds then
    (← hits.items).mapM fun hit => return (← (← hit.member "_source").member "product_id").text
  else
    return []

def bucketBound (bucket : List (String × Value)) (name : String) : Value :=
  match (bucket.lookup name).getD .null with
  | .null | .str "*" => .str ""
  | bound            => bound

def bucketRange (bucket : List (String × Value)) : FacetRange :=
  .create (bucketBound bucket "from") (bucketBound bucket "to")

def bucketValue (registry : Registry) (code : String) (bucket : List (String × Value)) : Except Error String :=
  if (bucket.lookup "from").isSome || (bucket.lookup "to").isSome then
    match registry.find? code with
    | some transformation => transformation.encodeRange (bucketRange bucket)
    | none                => .error <| .missingTransformation code
  else do
    let key ← (Value.object bucket).member "key"
    match registry.find? code with
    | some transformation => transformation.encode key
    | none                => return key.text

def bucketCount (registry : Registry) (code : String) (bucket : List (String × Value)) :
    Except Error FacetCount := do
  return ⟨← bucketValue registry code bucket, ← (Value.object bucket).member "doc_count"⟩

def bucketCount? (registry : Registry) (code : String) : Value → Except Error (Option FacetCount)
  | .object bucket =>
    if (bucket.lookup "key").getD .null = .str "" then return none
    else return some (← bucketCount registry code bucket)
  | _ => throw <| .misuse .noSuchPart

def facetField (registry : Registry) (code : String) (aggregation : Value) : Except Error FacetField := do
  let buckets := (← aggregation.member? "buckets").getD (.list [])
  let counts ← (← buckets.items).mapM (bucketCount? registry code)
  return ⟨code, counts.filterMap id⟩

-- The codes among some values. A list or an object cannot be looked for, and nothing else but a text is
-- ever found.
def codesOf (values : List Value) : Except Misuse (List String) := do
  if values.all Value.hashable then
    return values.filterMap fun
      | .str code => some code
      | _         => none
  else
    throw .wrongKind

def facetFields (r : Response) (registry : Registry) (without : List String) :
    Except Error (List FacetField) := do
  let aggregations := (← r.reply.member? "aggregations").getD .null
  if aggregations.holds then
    match aggregations with
    | .object fields =>
      (fields.filter fun field => !without.contains field.1).mapM fun (code, aggregation) =>
        facetField registry code aggregation
    | _ => throw <| .misuse .noSuchPart
  else
    return []

end Response
end CatalogSearch
