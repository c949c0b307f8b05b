import CatalogSearch.Number.Double

namespace CatalogSearch

-- Powers of natural numbers are the same ones in every context.
attribute [local instance (high)] instPowNat instNatPowNat

def natText (n : Nat) : String :=
  String.ofList (Nat.toDigits 10 n)

def intText (n : Int) : String :=
  if n < 0 then "-" ++ natText n.natAbs else natText n.natAbs

structure Decimal where
  digits   : Nat
  exponent : Int
  deriving DecidableEq

namespace Decimal

def readsAs (d : Decimal) (rank : Nat) : Bool :=
  Double.nearestRank (d.digits * 10 ^ d.exponent.toNat) (10 ^ (-d.exponent).toNat) = rank

def order (num den : Nat) : Int :=
  let guess := Double.binaryOrder num den * 30103 / 100000
  if atLeast (guess + 1) then guess + 1 else if atLeast guess then guess else guess - 1
where
  atLeast (power : Int) : Bool := den * 10 ^ power.toNat ≤ num * 10 ^ (-power).toNat

def neighbours (num den : Nat) (power : Int) : List Decimal :=
  let num := num * 10 ^ (-power).toNat
  let den := den * 10 ^ power.toNat
  let near := Double.roundRatio num den
  let far := if near = num / den then near + 1 else num / den
  [⟨near, power⟩, ⟨far, power⟩]

def exact (rank : Nat) : Decimal :=
  let power := Double.exponent rank
  ⟨Double.significand rank * 2 ^ power.toNat * 5 ^ (-power).toNat, min power 0⟩

-- Looks for a decimal that reads back, with one digit, then two, up to seventeen: so many always
-- suffice.
def shortest (rank : Nat) : Decimal :=
  let (num, den) := Double.magnitude rank
  let top := order num den
  let candidates := (List.range 17).flatMap fun more : Nat => neighbours num den (top - more)
  (candidates.find? (·.readsAs rank)).getD (exact rank)

-- How decimals are laid out: which powers of ten may lead a number that is written without an
-- exponent, and the least number of digits of an exponent, whose sign is always written.
structure Layout where
  leastPlain     : Int
  greatestPlain  : Int
  exponentDigits : Nat

def layout : Layout where
  leastPlain     := -4
  greatestPlain  := 15
  exponentDigits := 2

def stripZeros (digits : List Char) : List Char :=
  (digits.reverse.dropWhile (· == '0')).reverse

def Layout.write (l : Layout) (d : Decimal) : List Char :=
  let digits := Nat.toDigits 10 d.digits
  let lead : Int := digits.length - 1 + d.exponent
  let digits := stripZeros digits
  if l.leastPlain ≤ lead ∧ lead ≤ l.greatestPlain then
    if lead < 0 then
      '0' :: '.' :: List.replicate (-lead - 1).toNat '0' ++ digits
    else
      let whole := lead.toNat + 1
      let fraction := digits.drop whole
      digits.take whole ++ List.replicate (whole - digits.length) '0' ++ '.' ::
        (if fraction.isEmpty then ['0'] else fraction)
  else
    let power := Nat.toDigits 10 lead.natAbs
    let mantissa :=
      match digits with
      | first :: second :: rest => first :: '.' :: second :: rest
      | short                   => short
    mantissa ++ 'e' :: (if lead < 0 then '-' else '+') ::
      List.replicate (l.exponentDigits - power.length) '0' ++ power

end Decimal

namespace Double

def text : Double → String
  | .nan               => "nan"
  | .infinite negative => if negative then "-inf" else "inf"
  | .finite negative rank =>
    let digits := if rank.val = 0 then "0.0".toList else Decimal.layout.write (Decimal.shortest rank)
    String.ofList (if negative then '-' :: digits else digits)

end Double
end CatalogSearch
