import CatalogSearch.Error
import CatalogSearch.Text.Integer

namespace CatalogSearch.Value

def member? (name : String) : Value → Except Misuse (Option Value)
  | .object ms => .ok <| ms.lookup name
  | _          => .error .noSuchPart

def member (name : String) : Value → Except Misuse Value
  | .object ms => (ms.lookup name).elim (.error .absentKey) .ok
  | _          => .error .wrongKind

def items : Value → Except Misuse (List Value)
  | .list vs   => .ok vs
  | .object ms => .ok <| ms.map fun m => .str m.1
  | .str s     => .ok <| s.toList.map fun c => .str c.toString
  | _          => .error .wrongKind

def hashable : Value → Bool
  | .list _ | .object _ => false
  | _                   => true

def toWhole : Value → Except Misuse Int
  | .bool b   => .ok <| if b then 1 else 0
  | .int n    => .ok n
  | .double x =>
    match x.truncate?, x with
    | some n, _  => .ok n
    | none, .nan => .error .badValue
    | none, _    => .error .tooLarge
  | .str s    => (Integer.read? s).elim (.error .badValue) .ok
  | _         => .error .wrongKind

def compareInt? (n : Int) : Value → Except Misuse (Option Ordering)
  | .bool b   => .ok <| some <| compare (if b then 1 else 0 : Int) n
  | .int m    => .ok <| some <| compare m n
  | .double x => .ok <| x.compareInt? n
  | _         => .error .wrongKind

mutual

-- Equality that takes numbers of equal value for equal, whatever their kind.
def same : Value → Value → Bool
  | .list vs, .list ws     => sameItems vs ws
  | .object ms, .object ns => ms.length = ns.length && sameMembers ms ns
  | .double x, .double y   => x.compare? y = some .eq
  | .double x, .int n      => x.compareInt? n = some .eq
  | .int n, .double x      => x.compareInt? n = some .eq
  | .double x, .bool b     => x.compareInt? (if b then 1 else 0) = some .eq
  | .bool b, .double x     => x.compareInt? (if b then 1 else 0) = some .eq
  | .int n, .bool b        => n = if b then 1 else 0
  | .bool b, .int n        => n = if b then 1 else 0
  | v, w                   => v = w

def sameItems : List Value → List Value → Bool
  | [], []           => true
  | v :: vs, w :: ws => same v w && sameItems vs ws
  | _, _             => false

def sameMembers : List (String × Value) → List (String × Value) → Bool
  | [], _            => true
  | (k, v) :: ms, ns =>
    (match ns.lookup k with
    | some w => same v w
    | none   => false) && sameMembers ms ns

end

theorem same_list (h : ∀ v ∈ vs, same v v) : same (.list vs) (.list vs) := by
  rw [same]
  induction vs
  case nil => rfl
  case cons v vs hi =>
    have ⟨hv, hvs⟩ := List.forall_mem_cons.mp h
    simp [sameItems, hv, hi hvs]

theorem holds_of_same_list (h : same (.list vs) v) : v.holds = holds (.list vs) := by
  cases v
  case list ws =>
    cases vs <;> cases ws
    case nil.nil   => rfl
    case cons.cons => rfl
    all_goals simp [same, sameItems] at h
  all_goals simp [same] at h

def number? : Value → Option (Int ⊕ Double)
  | .bool b   => some <| .inl <| if b then 1 else 0
  | .int n    => some <| .inl n
  | .double x => some <| .inr x
  | _         => none

def countLimit : Int := 9223372036854775807
def roomLimit : Int := 4294967296

def repeated (tooLong : Misuse) (n : Int) (xs : List α) : Except Misuse (List α) :=
  if countLimit < n ∨ n < -countLimit - 1 then .error .tooLarge
  else if countLimit < n * xs.length then .error tooLong
  else if roomLimit < n * xs.length then .error .noRoom
  else .ok <| if xs.isEmpty then [] else (List.replicate n.toNat xs).flatten

def times (v w : Value) : Except Misuse Value :=
  match v.number?, w.number? with
  | some (.inl n), some (.inl m) => .ok <| .int (n * m)
  | some (.inr x), some (.inr y) => .ok <| .double (x.mul y)
  | some (.inl n), some (.inr y) => scaled n y
  | some (.inr x), some (.inl m) => scaled m x
  | some (.inl n), none          => copies n w
  | none, some (.inl m)          => copies m v
  | _, _                         => .error .wrongKind
where
  scaled (n : Int) (x : Double) : Except Misuse Value :=
    match Double.ofInt? n with
    | some y => .ok <| .double (y.mul x)
    | none   => .error .tooLarge
  copies (n : Int) : Value → Except Misuse Value
    | .str s   => do return .str <| String.ofList <| ← repeated .tooLarge n s.toList
    | .list vs => do return .list <| ← repeated .noRoom n vs
    | _        => .error .wrongKind

end CatalogSearch.Value
