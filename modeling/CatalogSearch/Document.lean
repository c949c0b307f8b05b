import CatalogSearch.Query.Context
import CatalogSearch.Value.Access

namespace CatalogSearch

structure Document where
  productId : Value
  context   : Context := ∅
  fields    : OrderedMap Value := ∅

namespace Document

-- The values of a field. A single one that is no container stands for itself, as a text. A field without
-- values is an empty text.
def collapse (values : Value) : Except Misuse Value :=
  if !values.holds then .ok (.str "")
  else
    match values with
    | .list [v] =>
      match v with
      | .null | .list _ | .object _ => .ok values
      | v                           => .ok <| .str v.text
    | .object [_] => .error .absentKey
    | .list _ | .object _ | .str _ => .ok values
    | _ => .error .wrongKind

def id (d : Document) : String :=
  d.productId.text ++ "_" ++ d.context.text

-- What is sent to the index. A later member of the same name replaces an earlier one: fields the product's
-- own, and context codes both.
def body (d : Document) : Except Misuse (OrderedMap Value) := do
  let own : OrderedMap Value := .ofList [("id", .str d.id), ("product_id", .str d.productId.text)]
  let fields ← d.fields.entries.mapM fun (name, values) => return (name, ← collapse values)
  let add (m : OrderedMap Value) (e : String × Value) := m.insert e.1 e.2
  return d.context.entries.foldl add (fields.foldl add own)

end Document
end CatalogSearch
