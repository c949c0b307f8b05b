import CatalogSearch.Text.Integer
import CatalogSearch.Text.Quoted
import CatalogSearch.Value.Basic

namespace CatalogSearch.Value

mutual

def shown : Value → String
  | .null      => "None"
  | .bool b    => if b then "True" else "False"
  | .int n     => intText n
  | .double x  => x.text
  | .str s     => quoted s
  | .date s    => s
  | .list vs   => "[" ++ ", ".intercalate (shownItems vs) ++ "]"
  | .object ms => "\x7b" ++ ", ".intercalate (shownMembers ms) ++ "\x7d"

def shownItems : List Value → List String
  | []      => []
  | v :: vs => shown v :: shownItems vs

def shownMembers : List (String × Value) → List String
  | []           => []
  | (k, v) :: ms => (quoted k ++ ": " ++ shown v) :: shownMembers ms

end

def text : Value → String
  | .str s => s
  | v      => shown v

mutual

def fits (limit : Nat) : Value → Bool
  | .int n     => Integer.fits limit n
  | .list vs   => fitItems limit vs
  | .object ms => fitMembers limit ms
  | _          => true

def fitItems (limit : Nat) : List Value → Bool
  | []      => true
  | v :: vs => fits limit v && fitItems limit vs

def fitMembers (limit : Nat) : List (String × Value) → Bool
  | []           => true
  | (_, v) :: ms => fits limit v && fitMembers limit ms

end

end CatalogSearch.Value
