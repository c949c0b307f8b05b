import CatalogSearch.Text.Blank

namespace CatalogSearch.Title

-- Whether a character is a given small letter or another case of it. The letter `i` has two further ones:
-- with a dot as a capital, and without a dot as a small letter.
def isCaseOf (small c : Char) : Bool :=
  c = small || (('a' ≤ small && small ≤ 'z') && c.toNat + 32 = small.toNat) ||
  (small = 'i' && (c.toNat = 0x130 || c.toNat = 0x131))

def afterTag? : List Char → List Char → Option (List Char)
  | [], cs             => some cs
  | _ :: _, []         => none
  | t :: tag, c :: cs  => if isCaseOf t c then afterTag? tag cs else none

def openTag : List Char := ['<', 't', 'i', 't', 'l', 'e', '>']
def closeTag : List Char := ['<', '/', 't', 'i', 't', 'l', 'e', '>']

def afterFirst? (tag : List Char) : List Char → Option (List Char)
  | []      => none
  | c :: cs => (afterTag? tag (c :: cs)) <|> afterFirst? tag cs

def beforeFirst? (tag : List Char) : List Char → Option (List Char)
  | []      => none
  | c :: cs => if (afterTag? tag (c :: cs)).isSome then some [] else (beforeFirst? tag cs).map (c :: ·)

def find? (page : String) : Option String := do
  let title ← beforeFirst? closeTag (← afterFirst? openTag page.toList)
  return strip (String.ofList title)

end CatalogSearch.Title
