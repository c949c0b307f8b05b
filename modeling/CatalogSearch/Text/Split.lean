import CatalogSearch.Text.Blank

namespace CatalogSearch

def splitOn (sep : Char) : List Char → List (List Char)
  | []      => [[]]
  | c :: cs =>
    if c = sep then [] :: splitOn sep cs
    else
      match splitOn sep cs with
      | part :: parts => (c :: part) :: parts
      | []            => [[c]]

def wordsOf (s : String) : List String :=
  (splitOn ' ' <| s.toList.map fun c => if isBlank c then ' ' else c).filter (· ≠ []) |>.map String.ofList

end CatalogSearch
