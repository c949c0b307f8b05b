import CatalogSearch.Error

namespace CatalogSearch

inductive ReadFault where
  | malformed
  | longNumber
  | deepNesting
  | unpaired -- There is half of a character, which no text has here.
  deriving DecidableEq

-- How deep values may lie inside of one another in texts. This depends on the interpreter that reads them, and
-- on what has called the reader.
structure Nesting where
  json : Nat := 980
  toml : Nat := 980

namespace ReadFault

def misuse? : ReadFault → Option Misuse
  | malformed   => none
  | longNumber  => some .badValue
  | deepNesting => some .tooDeep
  | unpaired    => some .notText

end ReadFault

def orMalformed : Option α → Except ReadFault α
  | some x => .ok x
  | none   => .error .malformed

end CatalogSearch
