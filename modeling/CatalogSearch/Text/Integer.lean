import CatalogSearch.Text.Blank
import CatalogSearch.Text.Digit

namespace CatalogSearch.Integer

-- The information separators are blanks elsewhere, but not around an integer.
def isMargin (c : Char) : Bool :=
  isBlank c && !(0x1C ≤ c.toNat && c.toNat ≤ 0x1F)

def digitLimit : Nat := 4300

-- Whether an integer can be written with so many digits. A limit of zero is none.
def fits (limit : Nat) (n : Int) : Bool :=
  limit = 0 || (Nat.toDigits 10 n.natAbs).length ≤ limit

def readDigits : List Char → Option (List Nat)
  | []             => some []
  | '_' :: c :: cs => do return (← digitValue? c) :: (← readDigits cs)
  | c :: cs        => do return (← digitValue? c) :: (← readDigits cs)

def readUnsigned : List Char → Option Nat
  | []      => none
  | c :: cs => do
    let digits := (← digitValue? c) :: (← readDigits cs)
    if digitLimit < digits.length then none
    return digits.foldl (fun n digit => n * 10 + digit) 0

def read? (s : String) : Option Int :=
  match trimChars isMargin s.toList with
  | '-' :: cs => (readUnsigned cs).map fun n => -(n : Int)
  | '+' :: cs => (readUnsigned cs).map (·)
  | cs        => (readUnsigned cs).map (·)

end CatalogSearch.Integer
