import CatalogSearch.Engine.Basic
import CatalogSearch.Http.Segment
import CatalogSearch.Http.Title
import CatalogSearch.Json.Reader

namespace CatalogSearch.Http

structure HttpRequest where
  method  : String
  url     : String
  body    : Value
  timeout : Value

inductive HttpReply where
  | body    (text : String)
  | failure (reason : String)

structure Connection where
  path    : String
  timeout : Value := .int 30
  nesting : Nat := ({} : Nesting).json

def headers : List (String × String) :=
  [("User-Agent", "facet-search/0.1.0"), ("Content-Type", "application/json")]

def basePath (path : String) : String :=
  String.ofList (path.toList.reverse.dropWhile (· = '/')).reverse

def url (path : String) (parts : List String) : String :=
  "/".intercalate (basePath path :: parts)

-- The request of a call. A document is addressed by its identity, which has to be a text.
def request (c : Connection) : Call → Except Error HttpRequest
  | .select body => .ok ⟨"POST", url c.path ["_search"], body, c.timeout⟩
  | .clear body  => .ok ⟨"POST", url c.path ["_delete_by_query"], body, c.timeout⟩
  | .update id body =>
    match id with
    | .str id => .ok ⟨"PUT", url c.path ["_doc", Segment.encode id], body, c.timeout⟩
    | _       => .error <| .misuse .wrongKind

def notJson (r : HttpRequest) (text : String) : Error :=
  .connection <| (Title.find? text).getD ("Invalid JSON response from " ++ r.url)

def decode (nesting : Nat) (r : HttpRequest) : HttpReply → Except Error Value
  | .failure reason => .error <| .connection <| "Request to " ++ r.url ++ " failed: " ++ reason
  | .body text      =>
    match Json.read text nesting with
    | .ok v               => .ok v
    | .error .deepNesting => .error <| .misuse .tooDeep
    | .error .unpaired    => .error <| .misuse .notText
    | .error _            => .error <| notJson r text

def line (r : HttpRequest) : LogLine :=
  ⟨.debug, "facet_search.elasticsearch.client", r.method ++ " " ++ r.url⟩

abbrev Exchange := Dialogue LogLine HttpRequest fun _ => HttpReply

def wording (c : Connection) (call : Call) :
    Except Error (Wording LogLine HttpRequest (fun _ => HttpReply) Value) := do
  let r ← request c call
  return { question := r, notes := [line r], understand := decode c.nesting r }

def exchange (c : Connection) (d : Engine.Conversation α) : Exchange α :=
  d.reword (fun line => [line]) (wording c)

-- A partner that gives prepared replies, one to each request. The last one is given again and again.
def prepared : List HttpReply → HttpRequest → Except Error HttpReply × List HttpReply
  | [], _                   => (.ok (.body "\x7b\x7d"), [])
  | [reply], _              => (.ok reply, [reply])
  | reply :: next :: rest, _ => (.ok reply, next :: rest)

end CatalogSearch.Http
