import CatalogSearch.Number.Decimal
import CatalogSearch.Text.Printable

namespace CatalogSearch

def hexDigits (width n : Nat) : List Char :=
  let digits := Nat.toDigits 16 n
  List.replicate (width - digits.length) '0' ++ digits

namespace Quoted

def mark (cs : List Char) : Char :=
  if cs.contains '\'' && !cs.contains '"' then '"' else '\''

def escape (mark c : Char) : List Char :=
  if c = '\\' ∨ c = mark then ['\\', c]
  else if c = '\n' then ['\\', 'n']
  else if c = '\r' then ['\\', 'r']
  else if c = '\t' then ['\\', 't']
  else if isPrintable c then [c]
  else if c.toNat < 0x100 then '\\' :: 'x' :: hexDigits 2 c.toNat
  else if c.toNat < 0x10000 then '\\' :: 'u' :: hexDigits 4 c.toNat
  else '\\' :: 'U' :: hexDigits 8 c.toNat

end Quoted

def quoted (s : String) : String :=
  let cs := s.toList
  let mark := Quoted.mark cs
  String.ofList <| mark :: cs.flatMap (Quoted.escape mark) ++ [mark]

end CatalogSearch
