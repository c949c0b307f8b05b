import CatalogSearch.Calendar
import CatalogSearch.Clause.Basic
import CatalogSearch.Value.Access

namespace CatalogSearch

structure Recency where
  today : Date
  field : String := "created_at"
  tiers : Value

structure RecencyClause where
  field : String
  boost : Value
  since : String
  deriving DecidableEq

def RecencyClause.toValue (c : RecencyClause) : Value :=
  objectOf "range" <| objectOf c.field <| .object [("boost", c.boost), ("gte", .str c.since)]

namespace Recency

def defaultTiers : Value :=
  .list <| [(5, 1), (4, 2), (3, 3), (2, 12), (1, 24)].map fun (boost, months) => .list [.int boost, .int months]

-- What is wrong with a number of months that is a double. Counted from January on, it may lead behind the
-- last month of a year. If it leads to a month, this month has no days, as only whole numbers have.
def fractionFault (today : Date) (months : Double) : Misuse :=
  match ((months.subtractFrom today.monthIndex).remainder 12).compareInt? 11 with
  | some .lt | some .eq => .wrongKind
  | _                   => .noMonth

def startOf (today : Date) : Value → Except Misuse Date
  | .bool b   => today.monthsBefore (if b then 1 else 0)
  | .int n    => today.monthsBefore n
  | .double x => .error (fractionFault today x)
  | _         => .error .wrongKind

def tierOf (tier : Value) : Except Misuse (Value × Value) := do
  match ← tier.items with
  | [boost, months] => return (boost, months)
  | _               => throw .badValue

def tierClause (r : Recency) (tier : Value) : Except Misuse RecencyClause := do
  let (boost, months) ← tierOf tier
  return ⟨r.field, boost, (← startOf r.today months).text ++ "T00:00:00"⟩

def clauses (r : Recency) : Except Misuse (List RecencyClause) := do
  (← r.tiers.items).mapM r.tierClause

end Recency
end CatalogSearch
