import CatalogSearch.Error
import CatalogSearch.OrderedMap
import CatalogSearch.Text.Digit
import CatalogSearch.Value.Text

namespace CatalogSearch

structure FacetRange where
  lower : Value := .null
  upper : Value := .null
  deriving DecidableEq

namespace FacetRange

def create (lower upper : Value) : FacetRange where
  lower := if lower = .str "" then .null else lower
  upper := if upper = .str "" then .null else upper

-- A double with an integral value is written as that integer.
def boundText (bound : Value) : String :=
  if bound = .null ∨ bound = .str "" then "*"
  else
    match bound with
    | .double x => (x.toInt?.map intText).getD x.text
    | v         => v.text

def token (r : FacetRange) : String :=
  boundText r.lower ++ "-" ++ boundText r.upper

def boundFits (limit : Nat) : Value → Bool
  | .double x => x.toInt?.all (Integer.fits limit)
  | bound     => bound.fits limit

def encode (limit : Nat) (r : FacetRange) : Except Misuse String :=
  if boundFits limit r.lower && boundFits limit r.upper then .ok r.token else .error .badValue

def readDigits (cs : List Char) : Option (List Char × List Char) :=
  match cs.span isDecimalDigit with
  | ([], _)        => none
  | (whole, rest)  =>
    match rest with
    | '.' :: rest' =>
      match rest'.span isDecimalDigit with
      | ([], _)           => some (whole, rest)
      | (fraction, rest'') => some (whole ++ '.' :: fraction, rest'')
    | _ => some (whole, rest)

def readBound : List Char → Option (Value × List Char)
  | '*' :: rest => some (.null, rest)
  | '-' :: rest => (readDigits rest).map fun (ds, rest) => (.str <| String.ofList ('-' :: ds), rest)
  | cs          => (readDigits cs).map fun (ds, rest) => (.str <| String.ofList ds, rest)

-- The range that a token names. One line feed at the end of the token is ignored.
def ofToken? (token : String) : Option FacetRange := do
  let (lower, rest) ← readBound token.toList
  let '-' :: rest := rest | none
  let (upper, rest) ← readBound rest
  if rest = [] ∨ rest = ['\n'] then return ⟨lower, upper⟩ else none

end FacetRange

inductive Decoded where
  | range (r : FacetRange)
  | plain (token : String)
  deriving DecidableEq

namespace Decoded

def ofToken (token : String) : Decoded :=
  (FacetRange.ofToken? token).elim (.plain token) .range

def token : Decoded → String
  | range r => r.token
  | plain s => s

end Decoded

-- The tokens of the values of a facet, its ranges among them. What a value is may keep it from having one, but
-- every text stands for something.
structure Transformation where
  encodeRange : FacetRange → Except Misuse String
  encode      : Value → Except Misuse String
  decode      : String → Decoded

-- Integers of any length are written.
def Transformation.rangeTokens : Transformation where
  encodeRange  := FacetRange.encode 0
  encode value := .ok value.text
  decode       := Decoded.ofToken

structure Registry where
  transformations : OrderedMap Transformation := ∅

namespace Registry

def insert (r : Registry) (code : String) (t : Transformation) : Registry where
  transformations := r.transformations.insert code t

def register (r : Registry) (code : String) : Registry :=
  r.insert code .rangeTokens

def find? (r : Registry) (code : String) : Option Transformation :=
  r.transformations.get? code

def has (r : Registry) (code : String) : Bool :=
  (r.find? code).isSome

end Registry
end CatalogSearch
