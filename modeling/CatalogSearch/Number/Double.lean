namespace CatalogSearch

attribute [local instance (high)] instPowNat instNatPowNat

namespace Double

abbrev significandBits : Nat := 52

def finiteCount : Nat := 2047 * 2 ^ significandBits

end Double

-- The finite doubles of one sign are numbered in increasing order.
inductive Double where
  | finite (negative : Bool) (rank : Fin Double.finiteCount)
  | infinite (negative : Bool)
  | nan
  deriving DecidableEq

namespace Double

-- The magnitude of a rank is `significand * 2 ^ exponent`: ranks below `2 ^ 52` are evenly spaced from
-- zero, and each further block of `2 ^ 52` ranks has twice the spacing of the block before.
def significand (rank : Nat) : Nat :=
  if rank < 2 ^ significandBits then rank else 2 ^ significandBits + rank % 2 ^ significandBits

def exponent (rank : Nat) : Int :=
  if rank < 2 ^ significandBits then -1074 else (rank / 2 ^ significandBits : Nat) - 1075

def magnitude (rank : Nat) : Nat × Nat :=
  (significand rank * 2 ^ (exponent rank).toNat, 2 ^ (-exponent rank).toNat)

def roundRatio (num den : Nat) : Nat :=
  let quotient := num / den
  let twice := 2 * (num % den)
  if den < twice ∨ (den = twice ∧ quotient % 2 = 1) then quotient + 1 else quotient

def binaryOrder (num den : Nat) : Int :=
  let guess : Int := (num.log2 : Int) - (den.log2 : Int)
  if den * 2 ^ guess.toNat ≤ num * 2 ^ (-guess).toNat then guess else guess - 1

-- The rank nearest to a ratio. It may be `finiteCount` or more, which stands for an overflow.
def nearestRank (num den : Nat) : Nat :=
  if num = 0 then 0
  else
    let exponent := max (-1074) (binaryOrder num den - significandBits)
    (exponent + 1074).toNat * 2 ^ significandBits
      + roundRatio (num * 2 ^ (-exponent).toNat) (den * 2 ^ exponent.toNat)

def ofRatio (negative : Bool) (num den : Nat) : Double :=
  if h : nearestRank num den < finiteCount then .finite negative ⟨_, h⟩ else .infinite negative

def zero : Double := .finite false ⟨0, by decide⟩

-- The double nearest to `digits * 10 ^ exponent`. Far outside the range of doubles no power is
-- computed: the number of digits decides.
def ofDecimal (negative : Bool) (digits : Nat) (exponent : Int) : Double :=
  let order : Int := (Nat.toDigits 10 digits).length + exponent
  if digits = 0 ∨ order < -330 then .finite negative ⟨0, by decide⟩
  else if 310 < order then .infinite negative
  else ofRatio negative (digits * 10 ^ exponent.toNat) (10 ^ (-exponent).toNat)

def ofInt? (n : Int) : Option Double :=
  match ofRatio (n < 0) n.natAbs 1 with
  | .infinite _ => none
  | x           => some x

def signed (negative : Bool) (n : Nat) : Int :=
  if negative then -(n : Int) else n

def toInt? : Double → Option Int
  | .finite negative rank =>
    let (num, den) := magnitude rank
    if num % den = 0 then some <| signed negative (num / den) else none
  | _ => none

def truncate? : Double → Option Int
  | .finite negative rank =>
    let (num, den) := magnitude rank
    some <| signed negative (num / den)
  | _ => none

def isZero : Double → Bool
  | .finite _ rank => rank.val = 0
  | _              => false

def mul : Double → Double → Double
  | .nan, _ => .nan
  | _, .nan => .nan
  | .finite s a, .finite t b =>
    let (num₁, den₁) := magnitude a
    let (num₂, den₂) := magnitude b
    ofRatio (s ^^ t) (num₁ * num₂) (den₁ * den₂)
  | .infinite s, .infinite t => .infinite (s ^^ t)
  | .infinite s, .finite t b => if b.val = 0 then .nan else .infinite (s ^^ t)
  | .finite s a, .infinite t => if a.val = 0 then .nan else .infinite (s ^^ t)

def subtractFrom (n : Int) : Double → Double
  | .nan => .nan
  | .infinite negative => .infinite (!negative)
  | .finite negative rank =>
    let (num, den) := magnitude rank
    let difference := n * den - signed negative num
    ofRatio (difference < 0) difference.natAbs den

def remainder (n : Nat) : Double → Double
  | .finite negative rank =>
    let (num, den) := magnitude rank
    let rest := num % (n * den)
    ofRatio false (if negative ∧ rest ≠ 0 then n * den - rest else rest) den
  | _ => .nan

def compareRatio? (x : Double) (num : Int) (den : Nat) : Option Ordering :=
  match x with
  | .nan => none
  | .infinite negative => some <| if negative then .lt else .gt
  | .finite negative rank =>
    let (n, d) := magnitude rank
    some <| compare (signed negative n * den) (num * d)

def compareInt? (x : Double) (n : Int) : Option Ordering :=
  x.compareRatio? n 1

def compare? (x y : Double) : Option Ordering :=
  match y with
  | .nan => none
  | .infinite negative =>
    match x with
    | .nan        => none
    | .infinite s => some <| if s = negative then .eq else if s then .lt else .gt
    | .finite ..  => some <| if negative then .gt else .lt
  | .finite negative rank =>
    let (n, d) := magnitude rank
    x.compareRatio? (signed negative n) d

theorem compare?_self {x : Double} (h : x ≠ .nan) : x.compare? x = some .eq := by
  cases x
  case nan      => contradiction
  case infinite => simp [compare?]
  case finite   => simp [compare?, compareRatio?]

end Double
end CatalogSearch
