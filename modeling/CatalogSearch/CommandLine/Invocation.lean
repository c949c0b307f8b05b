import CatalogSearch.Calendar
import CatalogSearch.CommandLine.Session
import CatalogSearch.Settings.Store

namespace CatalogSearch.CommandLine

structure Surroundings where
  places  : Places
  noColor : Bool := false
  today   : Date
  nesting : Nesting := {}

def Surroundings.settingsPath (s : Surroundings) (given : Option String) : Except Misuse Path :=
  (given.map s.places.resolve).getD <| .ok <| Settings.defaultPath s.places.home

structure Invocation where
  surroundings : Surroundings
  settings     : Settings := {}
  verbose      : Bool := false
  debug        : Bool := false
  quiet        : Bool := false

namespace Invocation

def url (v : Invocation) : String :=
  v.settings.url.text

def connection (v : Invocation) : Http.Connection where
  path    := v.url
  timeout := v.settings.timeout
  nesting := v.surroundings.nesting.json

end Invocation
end CatalogSearch.CommandLine
