import CatalogSearch.Files.Path

namespace CatalogSearch.Account

def home? (line : List Char) : Option (String × Path) :=
  match splitOn ':' line with
  | name :: _ :: _ :: _ :: _ :: home :: _ => some (String.ofList name, .ofText (String.ofList home))
  | _                                     => none

def homes (accounts : String) : List (String × Path) :=
  (splitOn '\n' accounts.toList).filterMap home?

end CatalogSearch.Account
