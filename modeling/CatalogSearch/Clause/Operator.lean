import CatalogSearch.Clause.Basic

namespace CatalogSearch

inductive Operator where
  | equal
  | notEqual
  | greaterOrEqualThan
  | greaterThan
  | lessOrEqualThan
  | lessThan
  | notDefined
  | fullText
  | mostFields
  | anything
  deriving DecidableEq

namespace Operator

def all : List Operator :=
  [equal, notEqual, greaterOrEqualThan, greaterThan, lessOrEqualThan, lessThan, notDefined, fullText,
    mostFields, anything]

def name : Operator → String
  | equal              => "Equal"
  | notEqual           => "NotEqual"
  | greaterOrEqualThan => "GreaterOrEqualThan"
  | greaterThan        => "GreaterThan"
  | lessOrEqualThan    => "LessOrEqualThan"
  | lessThan           => "LessThan"
  | notDefined         => "NotDefined"
  | fullText           => "FullText"
  | mostFields         => "MostFields"
  | anything           => "Anything"

-- Names are exact: another case or a blank around a name makes it unknown.
def ofName? (name : String) : Option Operator :=
  all.find? (·.name = name)

def ofValue? : Value → Option Operator
  | .str name => ofName? name
  | _         => none

def names : List String :=
  (all.map name).mergeSort fun a b => a ≤ b

end Operator

-- The fields that texts are searched in, as they were given. A field may carry a weight, as in `name^3`.
structure Tuning where
  searchFields : List Value := ["name^3", "brand^2", "description", "full_text_search"].map .str
  phraseField  : String := "name"
  deriving DecidableEq

namespace Phrase

def encodedMark : List Char := ['%', '2', '2']

def occurs (mark : List Char) : List Char → Bool
  | []      => mark.isEmpty
  | c :: cs => mark.isPrefixOf (c :: cs) || occurs mark cs

-- Whether a mark is followed by another one of its kind in the same line.
def encloses (mark : List Char) : List Char → Bool
  | []      => false
  | c :: cs =>
    mark.isPrefixOf (c :: cs) &&
      occurs mark (((c :: cs).drop mark.length).takeWhile (· ≠ '\n')) || encloses mark cs

def isQuoted (text : String) : Bool :=
  encloses encodedMark text.toList || encloses ['"'] text.toList

-- Removes every `%22`, from left to right. What comes together by that stays.
def removeEncodedMarks : List Char → List Char
  | '%' :: '2' :: '2' :: rest => removeEncodedMarks rest
  | c :: rest                 => c :: removeEncodedMarks rest
  | []                        => []

def unquote (text : String) : String :=
  String.ofList <| (removeEncodedMarks text.toList).filter (· ≠ '"')

end Phrase

namespace Operator

def equality (field : String) (value : Value) : Clause Atom :=
  .only .filter (.atom (.term field value))

def bounded (field : String) (bound : Bound) (value : String) : Clause Atom :=
  .only .filter (.atom (.range field bound value))

def absent (field : String) : Clause Atom :=
  .only .mustNot (.atom (.present field))

def clause (tuning : Tuning) (field value : String) : Operator → Clause Atom
  | equal              => equality field (.str value)
  | notEqual           => .only .mustNot (.atom (.term field (.str value)))
  | greaterOrEqualThan => bounded field .gte value
  | greaterThan        => bounded field .gt value
  | lessOrEqualThan    => bounded field .lte value
  | lessThan           => bounded field .lt value
  | notDefined         => absent field
  | anything           => .anything
  | mostFields         => .group .should [.atom (.words tuning.searchFields value false)]
  | fullText           =>
    if Phrase.isQuoted value then
      .group .must [.atom (.phrase tuning.phraseField (Phrase.unquote value))]
    else
      .group .should [.atom (.words tuning.searchFields value true)]

end Operator
end CatalogSearch
