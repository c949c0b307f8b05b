import CatalogSearch.Settings.Basic

namespace CatalogSearch.Settings

-- Looks a key up in a section. A section should be a table. In a text or a list the key is searched as
-- well, but nothing can be taken out of them.
def entry? (section_ : Value) (key : String) : Except Misuse (Option Value) :=
  match section_ with
  | .object ms => .ok <| ms.lookup key
  | .list vs   => if vs.contains (.str key) then .error .wrongKind else .ok none
  | .str s     => if Phrase.occurs key.toList s.toList then .error .wrongKind else .ok none
  | _          => .error .wrongKind

def readKey (section_ : Value) (key : String) (default : Value) (check : Value → Except Error Value) :
    Except Error Value := do
  match ← entry? section_ key with
  | some v => check v
  | none   => return default

def invalid (key reason : String) : Except Error α :=
  .error <| .settings <| .invalid key reason

def textOf (key : String) : Value → Except Error Value
  | .str s => .ok (.str s)
  | _      => invalid key "must be a string"

def flagOf (key : String) : Value → Except Error Value
  | .bool b => .ok (.bool b)
  | _       => invalid key "must be a boolean"

def wholeOf (key : String) : Value → Except Error Value
  | .int n => .ok (.int n)
  | _      => invalid key "must be an integer"

def timeOf (key : String) : Value → Except Error Value
  | .double x => .ok (.double x)
  | .int n    => (Double.ofInt? n).elim (.error <| .misuse .tooLarge) (.ok ∘ .double)
  | _         => invalid key "must be a number"

def isText : Value → Bool
  | .str _ => true
  | _      => false

def textsOf (key : String) : Value → Except Error Value
  | .list vs => if vs.all isText then .ok (.list vs) else invalid key "must be a list of strings"
  | _        => invalid key "must be a list of strings"

def isTier : Value → Bool
  | .list [.int _, .int _] | .list [.double _, .int _] => true
  | _                                                  => false

def tiersOf (key : String) : Value → Except Error Value
  | .list vs => if vs.all isTier then .ok (.list vs) else invalid key "each tier must be [boost, months]"
  | _        => invalid key "must be a list of [boost, months]"

-- The sections are looked for in the order in which their keys are checked.
def parse (data : Value) (path : Option String) : Except Error Settings := do
  let d : Settings := {}
  let part (name : String) : Except Error Value := do return (← data.member? name).getD (.object [])
  let engine ← part "elasticsearch"
  let url ← readKey engine "url" d.url (textOf "elasticsearch.url")
  let timeout ← readKey engine "timeout" d.timeout (timeOf "elasticsearch.timeout")
  let search ← part "search"
  let fullTextFields ←
    readKey search "full_text_fields" d.fullTextFields (textsOf "search.full_text_fields")
  let phraseField ← readKey search "phrase_field" d.phraseField (textOf "search.phrase_field")
  let sortByScoreFirst ←
    readKey search "sort_by_score_first" d.sortByScoreFirst (flagOf "search.sort_by_score_first")
  let siblingWorkers ←
    readKey search "sibling_workers" d.siblingWorkers (wholeOf "search.sibling_workers")
  let recency ← part "recency_boost"
  let recencyEnabled ← readKey recency "enabled" d.recencyEnabled (flagOf "recency_boost.enabled")
  let recencyField ← readKey recency "field" d.recencyField (textOf "recency_boost.field")
  let recencyTiers ← readKey recency "tiers" d.recencyTiers (tiersOf "recency_boost.tiers")
  let display ← part "display"
  let coloredOutput ← readKey display "colored_output" d.coloredOutput (flagOf "display.colored_output")
  return { url, timeout, fullTextFields, phraseField, sortByScoreFirst, siblingWorkers, recencyEnabled,
           recencyField, recencyTiers, coloredOutput, path }

end CatalogSearch.Settings
