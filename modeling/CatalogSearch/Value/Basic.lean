import CatalogSearch.Number.Double
import CatalogSearch.OrderedMap

namespace CatalogSearch

inductive Value where
  | null
  | bool   (b : Bool)
  | int    (n : Int)
  | double (x : Double)
  | str    (s : String)
  | date   (text : String)
  | list   (items : List Value)
  | object (members : List (String × Value))

instance : Inhabited Value := ⟨.null⟩

namespace Value

mutual

def decEq : (v w : Value) → Decidable (v = w)
  | .null, .null => isTrue rfl
  | .bool b, .bool c => decidable_of_iff (b = c) (by simp)
  | .int n, .int m => decidable_of_iff (n = m) (by simp)
  | .double x, .double y => decidable_of_iff (x = y) (by simp)
  | .str s, .str t => decidable_of_iff (s = t) (by simp)
  | .date s, .date t => decidable_of_iff (s = t) (by simp)
  | .list vs, .list ws =>
    match decEqItems vs ws with
    | isTrue h  => isTrue (by rw [h])
    | isFalse h => isFalse (by simpa using h)
  | .object ms, .object ns =>
    match decEqMembers ms ns with
    | isTrue h  => isTrue (by rw [h])
    | isFalse h => isFalse (by simpa using h)
  | .null, .bool _ | .null, .int _ | .null, .double _ | .null, .str _ | .null, .date _
  | .null, .list _ | .null, .object _ | .bool _, .null | .bool _, .int _ | .bool _, .double _
  | .bool _, .str _ | .bool _, .date _ | .bool _, .list _ | .bool _, .object _ | .int _, .null
  | .int _, .bool _ | .int _, .double _ | .int _, .str _ | .int _, .date _ | .int _, .list _
  | .int _, .object _ | .double _, .null | .double _, .bool _ | .double _, .int _ | .double _, .str _
  | .double _, .date _ | .double _, .list _ | .double _, .object _ | .str _, .null | .str _, .bool _
  | .str _, .int _ | .str _, .double _ | .str _, .date _ | .str _, .list _ | .str _, .object _
  | .date _, .null | .date _, .bool _ | .date _, .int _ | .date _, .double _ | .date _, .str _
  | .date _, .list _ | .date _, .object _ | .list _, .null | .list _, .bool _ | .list _, .int _
  | .list _, .double _ | .list _, .str _ | .list _, .date _ | .list _, .object _ | .object _, .null
  | .object _, .bool _ | .object _, .int _ | .object _, .double _ | .object _, .str _
  | .object _, .date _ | .object _, .list _ => isFalse (by simp)

def decEqItems : (vs ws : List Value) → Decidable (vs = ws)
  | [], [] => isTrue rfl
  | [], _ :: _ | _ :: _, [] => isFalse (by simp)
  | v :: vs, w :: ws =>
    match decEq v w, decEqItems vs ws with
    | isTrue h, isTrue hs => isTrue (by rw [h, hs])
    | isFalse h, _        => isFalse (by simp [h])
    | _, isFalse h        => isFalse (by simp [h])

def decEqMembers : (ms ns : List (String × Value)) → Decidable (ms = ns)
  | [], [] => isTrue rfl
  | [], _ :: _ | _ :: _, [] => isFalse (by simp)
  | (k, v) :: ms, (l, w) :: ns =>
    match decEq v w, decEqMembers ms ns with
    | isTrue h, isTrue hs =>
      if hk : k = l then isTrue (by rw [hk, h, hs]) else isFalse (by simp [hk])
    | isFalse h, _ => isFalse (by simp [h])
    | _, isFalse h => isFalse (by simp [h])

end

instance : DecidableEq Value := decEq

def ofMap (m : OrderedMap Value) : Value :=
  .object m.entries

def holds : Value → Bool
  | .null      => false
  | .bool b    => b
  | .int n     => n ≠ 0
  | .double x  => !x.isZero
  | .str s     => s ≠ ""
  | .date _    => true
  | .list vs   => !vs.isEmpty
  | .object ms => !ms.isEmpty

def kindName : Value → String
  | .null     => "NoneType"
  | .bool _   => "bool"
  | .int _    => "int"
  | .double _ => "float"
  | .str _    => "str"
  | .date _   => "date"
  | .list _   => "list"
  | .object _ => "dict"

end Value
end CatalogSearch
