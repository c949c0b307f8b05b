import CatalogSearch.Value.Basic

namespace CatalogSearch

inductive Keyword where
  | must
  | should
  | filter
  | mustNot
  deriving DecidableEq

def Keyword.name : Keyword → String
  | must    => "must"
  | should  => "should"
  | filter  => "filter"
  | mustNot => "must_not"

inductive Bound where
  | gte
  | gt
  | lte
  | lt
  deriving DecidableEq

def Bound.name : Bound → String
  | gte => "gte"
  | gt  => "gt"
  | lte => "lte"
  | lt  => "lt"

-- What can be asked of the fields of a document. A `words` atom searches several fields for the words
-- of a text, for all of them if `every` holds.
inductive Atom where
  | matchAll
  | term    (field : String) (value : Value)
  | range   (field : String) (bound : Bound) (value : String)
  | present (field : String)
  | words   (fields : List Value) (query : String) (every : Bool)
  | phrase  (field text : String)
  deriving DecidableEq

inductive Clause (α : Type) where
  | atom  (a : α)
  | only  (keyword : Keyword) (clause : Clause α)
  | group (keyword : Keyword) (clauses : List (Clause α))

namespace Clause

mutual

def map (f : α → β) : Clause α → Clause β
  | .atom a     => .atom (f a)
  | .only k c   => .only k (map f c)
  | .group k cs => .group k (mapAll f cs)

def mapAll (f : α → β) : List (Clause α) → List (Clause β)
  | []      => []
  | c :: cs => map f c :: mapAll f cs

end

def anything : Clause Atom :=
  .only .filter (.atom .matchAll)

end Clause

def objectOf (name : String) (v : Value) : Value :=
  .object [(name, v)]

def Atom.toValue : Atom → Value
  | matchAll                => objectOf "match_all" (.object [])
  | term field value        => objectOf "term" (objectOf field value)
  | range field bound value => objectOf "range" (objectOf field (objectOf bound.name (.str value)))
  | present field           => objectOf "exists" (objectOf "field" (.str field))
  | phrase field text       => objectOf "match_phrase" (objectOf field (.str text))
  | words fields query every => objectOf "multi_match" <| .object <|
    [("fields", .list fields), ("query", .str query)] ++
    (if every then [("operator", .str "and")] else []) ++
    [("type", .str "most_fields")]

namespace Clause

mutual

def toValueWith (f : α → Value) : Clause α → Value
  | .atom a     => f a
  | .only k c   => objectOf "bool" (objectOf k.name (toValueWith f c))
  | .group k cs => objectOf "bool" (objectOf k.name (.list (toValuesWith f cs)))

def toValuesWith (f : α → Value) : List (Clause α) → List Value
  | []      => []
  | c :: cs => toValueWith f c :: toValuesWith f cs

end

def toValue (c : Clause Atom) : Value :=
  c.toValueWith Atom.toValue

end Clause
end CatalogSearch
