import CatalogSearch.Clause.Operator
import CatalogSearch.Error

namespace CatalogSearch

inductive Criteria where
  | everything
  | leaf (operator : Operator) (field value : String)
  | all  (first : Criteria) (rest : List Criteria)
  | any  (first : Criteria) (rest : List Criteria)

namespace Criteria

def readLeaf (members : List (String × Value)) : Except CompileError Criteria :=
  match missingLeafKeys members with
  | [] =>
    let part key := (members.lookup key).getD .null
    match Operator.ofValue? (part "operation") with
    | some operator => .ok <| .leaf operator (part "fieldName").text (part "fieldValue").text
    | none          => .error <| .unknownOperation (part "operation")
  | missing => .error <| .incompleteLeaf missing

-- Joins the parts of a composite. No parts are no constraint, whatever the condition. An unknown
-- condition comes before all errors of the parts.
def join (condition : Value) (parts : List (Except CompileError Criteria)) : Except CompileError Criteria :=
  match parts with
  | []            => .ok .everything
  | first :: rest =>
    if condition = .str "and" then return .all (← first) (← rest.mapM id)
    else if condition = .str "or" then return .any (← first) (← rest.mapM id)
    else .error <| .unknownCondition condition

mutual

def readNode : Value → Except CompileError Criteria
  | .object members =>
    match members.lookup "condition" with
    | none           => readLeaf members
    | some condition =>
      match readParts members with
      | none       => .error <| .noChildren condition
      | some parts => join condition parts
  | v => .error <| .notObject v.kindName

def readParts : List (String × Value) → Option (List (Except CompileError Criteria))
  | [] => none
  | (key, .list vs) :: members => if key = "criteria" then some (readNodes vs) else readParts members
  | (key, _) :: members => if key = "criteria" then none else readParts members

def readNodes : List Value → List (Except CompileError Criteria)
  | []      => []
  | v :: vs => readNode v :: readNodes vs

end

-- Criteria that are absent or empty are no constraint. This holds at the root only.
def ofValue : Value → Except Error Criteria
  | .null       => .ok .everything
  | .object []  => .ok .everything
  | .object ms  => (readNode (.object ms)).mapError .compile
  | _           => .error <| .misuse .noSuchPart

mutual

def clause (tuning : Tuning) : Criteria → Clause Atom
  | .everything                => .anything
  | .leaf operator field value => operator.clause tuning field value
  | .all first rest            => .group .must (clause tuning first :: clauses tuning rest)
  | .any first rest            => .group .should (clause tuning first :: clauses tuning rest)

def clauses (tuning : Tuning) : List Criteria → List (Clause Atom)
  | []      => []
  | c :: cs => clause tuning c :: clauses tuning cs

end

def compile (tuning : Tuning) (criteria : Value) : Except Error (Clause Atom) :=
  (ofValue criteria).map (clause tuning)

end Criteria
end CatalogSearch
