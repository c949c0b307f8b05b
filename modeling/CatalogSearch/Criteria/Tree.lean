import CatalogSearch.Value.Basic

namespace CatalogSearch

inductive CriteriaTree where
  | criterion (field value operation : Value)
  | group     (condition : Value) (parts : List CriteriaTree)

namespace CriteriaTree

def allOf (parts : List CriteriaTree) : CriteriaTree := .group (.str "and") parts
def anyOf (parts : List CriteriaTree) : CriteriaTree := .group (.str "or") parts

mutual

def toValue : CriteriaTree → Value
  | .criterion field value operation =>
    .object [("fieldName", field), ("fieldValue", value), ("operation", operation)]
  | .group condition parts =>
    .object [("condition", condition), ("criteria", .list (toValues parts))]

def toValues : List CriteriaTree → List Value
  | []            => []
  | part :: parts => toValue part :: toValues parts

end

end CriteriaTree
end CatalogSearch
