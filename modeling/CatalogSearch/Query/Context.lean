import CatalogSearch.Clause.Operator
import CatalogSearch.OrderedMap
import CatalogSearch.Value.Text

namespace CatalogSearch

abbrev Context := OrderedMap Value

namespace Context

def text (context : Context) : String :=
  "_".intercalate <| context.entries.map fun (code, value) => code ++ ":" ++ value.text

-- A document has to have the value of every code, unless it lacks the code.
def clause (context : Context) : Clause Atom :=
  if context.isEmpty then .anything
  else
    .group .filter <| context.entries.map fun (code, value) =>
      .group .should [Operator.equality code (.str value.text), Operator.absent code]

end Context
end CatalogSearch
