import CatalogSearch.Proofs.Facet.Encoding
import CatalogSearch.Proofs.Facet.OpenBound

namespace CatalogSearch.FacetRange

theorem NamedBy.unique {r s : FacetRange} (h : r.NamedBy text) (h' : s.NamedBy text) : r = s :=
  Option.some.inj <| (ofToken?_eq_some_iff.mpr h).symm.trans <| ofToken?_eq_some_iff.mpr h'

end CatalogSearch.FacetRange
