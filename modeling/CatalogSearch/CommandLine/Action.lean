import CatalogSearch.CommandLine.Invocation
import CatalogSearch.CommandLine.Search
import CatalogSearch.Settings.Example

namespace CatalogSearch.CommandLine

open Session

variable [Console]

-- Shows what a search has found. The counts are taken as markup, as they come with the reply.
def showResult (r : SearchResult) : Session Unit := do
  say .out (Console.styled "success" (intText r.total) ++ " matching documents")
  unless r.productIds.isEmpty do
    showTable "Products" ["#", "Product ID"] <|
      r.productIds.zipIdx.map fun (id, position) => [natText (position + 1), Console.escape id]
  r.facets.forM fun field =>
    showTable field.code ["Value", "Count"] <| field.counts.map fun c => [Console.escape c.value, c.count.text]

def preview (e : Engine) (o : SearchOrder) : Session ExitCode :=
  match e.request o.criteria o.options o.options.selection with
  | .ok request              => do
    .remark <| .document request.toValue
    return .success
  | .error (.compile cause)  => do
    complain cause.message
    return .failure
  | .error e                 => .done (.error e)

def carryOut (v : Invocation) (e : Engine) (o : SearchOrder) : Session ExitCode := do
  if v.verbose then info ("Querying " ++ v.url)
  match ← (converse v.connection v.debug (e.query o.criteria o.options)).attempt with
  | .ok result              =>
    showResult result
    return .success
  | .error (.compile cause) =>
    complain cause.message
    return .failure
  | .error e                =>
    if e.kind?.isSome then
      complain e.message
      hint "Check elasticsearch.url in your config"
      return .engineFailure
    else .done (.error e)

def search (v : Invocation) (a : SearchArguments) : Session ExitCode :=
  match a.order v.surroundings.nesting.json with
  | .error e => refuse (some .query) e
  | .ok o    => do
    let engine ← (liftM (Engine.ofSettings v.settings o.registry v.surroundings.today) : Except Error Engine)
    if a.dryRun then preview engine o else carryOut v engine o

def clearIndex (v : Invocation) : Session ExitCode := do
  match ← (converse v.connection v.debug Engine.clear).attempt with
  | .ok ()   =>
    unless v.quiet do succeed ("Cleared " ++ v.url)
    return .success
  | .error e =>
    if e.kind?.isSome then
      complain e.message
      return .engineFailure
    else .done (.error e)

def clear (v : Invocation) (consent : Bool) : Session ExitCode := do
  let agreed ← if consent then pure true else do
    let answer : Option Bool ← need (.confirmation ("Delete all documents in " ++ v.url ++ "?"))
    pure (answer.getD false)
  if agreed then clearIndex v
  else
    sayRaw .err "Aborted!\n"
    return .failure

def writeExample (target : Path) : Session Unit := do
  need (.makeDirectory target.parent)
  need (.write target Settings.exampleText)

def initConfig (target : Path) (force : Bool) : Session ExitCode := do
  let present : Bool ← need (.presence target)
  if present && !force then
    complain (target.text ++ " already exists")
    hint "Pass --force to replace it"
    return .failure
  else
    match ← (writeExample target).attempt with
    | .ok ()               =>
      succeed ("Wrote " ++ target.text)
      info "Set elasticsearch.url to your index before running queries."
      return .success
    | .error (.file cause) =>
      complain ("Cannot write " ++ target.text ++ ": " ++ cause.message)
      return .failure
    | .error e             => .done (.error e)

end CatalogSearch.CommandLine
