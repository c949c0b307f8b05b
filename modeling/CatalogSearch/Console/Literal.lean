import CatalogSearch.Json.Reader
import CatalogSearch.Number.Double

namespace CatalogSearch

inductive Magnitude where
  | whole (n : Nat)
  | fraction
  | imaginary
  deriving DecidableEq

inductive Literal where
  | number   (signed : Bool) (magnitude : Magnitude)
  | complex  -- A real number and an imaginary one.
  | text
  | bytes
  | constant
  | tuple    (items : List Literal)
  | set
  | table

namespace Literal

mutual

def hashable : Literal → Bool
  | set | table => false
  | tuple items => allHashable items
  | _           => true

def allHashable : List Literal → Bool
  | []            => true
  | item :: items => hashable item && allHashable items

end

def nestingLimit : Nat := 200

def isSpace (c : Char) : Bool := c = ' ' || c = '\t' || c = '\x0c'

mutual

def skipGap (nested : Bool) : List Char → List Char
  | []                   => []
  | '\\' :: '\n' :: rest => skipGap nested rest
  | c :: rest            =>
    if isSpace c || (nested && c = '\n') then skipGap nested rest
    else if nested && c = '#' then skipComment nested rest
    else c :: rest

def skipComment (nested : Bool) : List Char → List Char
  | []        => []
  | c :: rest => if c = '\n' then skipGap nested rest else skipComment nested rest

end

mutual

-- Skips the lines in front of a literal, which are blank or hold a comment. The line of the literal itself
-- has to begin at the margin. A form feed takes back the space in front of it, but not that of a line which
-- has been joined.
def skipLines (space joined : Bool) : List Char → Option (List Char)
  | []                   => some []
  | '\\' :: '\n' :: rest => skipLines space (space || joined) rest
  | c :: rest            =>
    if c = '\n' then skipLines false false rest
    else if c = '#' then skipCommentLine rest
    else if isSpace c then skipLines (c ≠ '\x0c') joined rest
    else if space || joined then none
    else some (c :: rest)

def skipCommentLine : List Char → Option (List Char)
  | []        => some []
  | c :: rest => if c = '\n' then skipLines false false rest else skipCommentLine rest

end

def readDigits (isDigit : Char → Bool) : List Char → Option (List Char × List Char)
  | c :: '_' :: d :: rest =>
    if isDigit c then
      if isDigit d then (readDigits isDigit (d :: rest)).map fun (ds, rest) => (c :: ds, rest)
      else some ([c], '_' :: d :: rest)
    else none
  | c :: rest =>
    if isDigit c then
      match readDigits isDigit rest with
      | some (ds, rest) => some (c :: ds, rest)
      | none            => some ([c], rest)
    else none
  | [] => none

def skipDigits (cs : List Char) : List Char :=
  ((readDigits isAsciiDigit cs).map (·.2)).getD cs

def readRadix (letter : Char) (cs : List Char) : Option (Magnitude × List Char) := do
  let radix ←
    match letter.toLower with
    | 'x' => some 16
    | 'o' => some 8
    | 'b' => some 2
    | _   => none
  let cs :=
    match cs with
    | '_' :: rest => rest
    | cs          => cs
  let (ds, rest) ← readDigits (fun c => (Json.hexValue? c).any (· < radix)) cs
  return (.whole (ds.foldl (fun n c => n * radix + (Json.hexValue? c).getD 0) 0), rest)

def skipExponent (cs : List Char) : Option (List Char) :=
  match cs with
  | e :: sign :: rest =>
    if e = 'e' ∨ e = 'E' then
      if sign = '+' ∨ sign = '-' then (readDigits isAsciiDigit rest).map (·.2)
      else (readDigits isAsciiDigit (sign :: rest)).map (·.2)
    else none
  | _ => none

def skipSuffix : List Char → Option (List Char)
  | 'j' :: rest | 'J' :: rest => some rest
  | _                         => none

def readTail (whole : Option (List Char)) (cs : List Char) : Option (Magnitude × List Char) :=
  let (pointed, rest) :=
    match cs with
    | '.' :: rest => (true, skipDigits rest)
    | cs          => (false, cs)
  let (scaled, rest) :=
    match skipExponent rest with
    | some rest => (true, rest)
    | none      => (false, rest)
  match skipSuffix rest, pointed || scaled, whole with
  | some rest, _, _      => some (.imaginary, rest)
  | none, true, _        => some (.fraction, rest)
  | none, false, some ds =>
    -- No zero in front of other digits.
    if ds.length ≤ Integer.digitLimit ∧ (ds.head? = some '0' → ds.all (· = '0')) then
      some (.whole (digitsValue ds), rest)
    else none
  | none, false, none    => none

def readNumber : List Char → Option (Magnitude × List Char)
  | '0' :: c :: rest =>
    if radixLetter c then readRadix c rest else readPlain ('0' :: c :: rest)
  | '.' :: d :: rest => if isAsciiDigit d then readTail none ('.' :: d :: rest) else none
  | cs               => readPlain cs
where
  radixLetter (c : Char) : Bool := ['x', 'o', 'b'].contains c.toLower
  readPlain (cs : List Char) : Option (Magnitude × List Char) := do
    let (ds, rest) ← readDigits isAsciiDigit cs
    readTail (some ds) rest

structure Quotation where
  mark   : Char
  triple : Bool
  raw    : Bool
  bytes  : Bool

namespace Quotation

def skipCode (width : Nat) (cs : List Char) : Option (List Char) := do
  if (cs.take width).length ≠ width then none
  let n ← Json.readHex (cs.take width)
  if 0x10FFFF < n then none
  return cs.drop width

def isNameChar (c : Char) : Bool :=
  c.isAlphanum || c = ' ' || c = '-'

-- The rest behind the name of a character, which stands between braces. A name is known by its form.
def skipName : List Char → Option (List Char)
  | '\x7b' :: rest =>
    match rest.span isNameChar with
    | (_ :: _, '\x7d' :: rest) => some rest
    | _                        => none
  | _ => none

def skipEscape (q : Quotation) : List Char → Option (List Char)
  | []        => none
  | c :: rest =>
    if q.raw then some rest
    else if c = 'x' then skipCode 2 rest
    else if q.bytes then some rest
    else
      match c with
      | 'u' => skipCode 4 rest
      | 'U' => skipCode 8 rest
      | 'N' => skipName rest
      | _   => some rest

def skipBody (q : Quotation) : Nat → List Char → Option (List Char)
  | 0, _ => none
  | _, [] => none
  | fuel + 1, c :: rest =>
    if c = '\\' then do
      if q.bytes && rest.head?.any (0x7F < ·.toNat) then none
      skipBody q fuel (← q.skipEscape rest)
    else if c = q.mark then
      if !q.triple then some rest
      else
        match rest with
        | a :: b :: rest' => if a = q.mark ∧ b = q.mark then some rest' else skipBody q fuel rest
        | _               => none
    else if (c = '\n' ∧ !q.triple) ∨ (q.bytes ∧ 0x7F < c.toNat) then none
    else skipBody q fuel rest

def ofLetters? (letters : List Char) (mark : Char) : Option Quotation :=
  match letters.map Char.toLower with
  | []                      => some ⟨mark, false, false, false⟩
  | ['u']                   => some ⟨mark, false, false, false⟩
  | ['r']                   => some ⟨mark, false, true, false⟩
  | ['b']                   => some ⟨mark, false, false, true⟩
  | ['b', 'r'] | ['r', 'b'] => some ⟨mark, false, true, true⟩
  | _                       => none

end Quotation

def readText (cs : List Char) : Option (Literal × List Char) := do
  let (letters, rest) := cs.span (·.isAlpha)
  let mark :: rest := rest | none
  if mark ≠ '"' ∧ mark ≠ '\'' then none
  let q ← Quotation.ofLetters? letters mark
  let kind := if q.bytes then bytes else text
  match rest with
  | a :: b :: rest' =>
    if a = mark ∧ b = mark then
      return (kind, ← { q with triple := true }.skipBody rest'.length.succ rest')
    else return (kind, ← q.skipBody rest.length.succ rest)
  | rest => return (kind, ← q.skipBody rest.length.succ rest)

def readTexts (nested : Bool) : Nat → List Char → Option (Literal × List Char)
  | 0, _ => none
  | fuel + 1, cs => do
    let (kind, rest) ← readText cs
    match readTexts nested fuel (skipGap nested rest), kind with
    | some (text, rest'), text   => return (text, rest')
    | some (bytes, rest'), bytes => return (bytes, rest')
    | some _, _                  => none
    | none, _                    => return (kind, rest)

def isNameChar (c : Char) : Bool :=
  c.isAlphanum || c = '_' || 0x7F < c.toNat

def readName (nested : Bool) (cs : List Char) : Option (Literal × List Char) :=
  let (name, rest) := cs.span isNameChar
  match String.ofList name with
  | "True" | "False" | "None" => some (constant, rest)
  | "set" => do
    let '(' :: rest := skipGap nested rest | none
    let ')' :: rest := skipGap true rest | none
    return (set, rest)
  | _ => none

def plus? : Literal → Literal → Option Literal
  | number _ (.whole n), number false .imaginary => (Double.ofInt? n).map fun _ => complex
  | number _ .fraction, number false .imaginary  => some complex
  | _, _                                         => none

def ends : List Char → Bool
  | []     => true
  | c :: _ => [')', '\x7d', '\n', '#'].contains c

mutual

-- A literal without a sign. The fuel bounds the depth of the call, and every third call at the latest
-- consumes a character. The room is the number of brackets that may still be opened.
def readAtom : Nat → Bool → Nat → List Char → Option (Literal × List Char)
  | fuel + 1, _, room + 1, '(' :: rest => do
    let (items, single, rest) ← readItems fuel true room (skipGap true rest)
    let ')' :: rest := rest | none
    match items, single with
    | [item], true => return (item, rest)
    | items, _     => return (tuple items, rest)
  | fuel + 1, _, room + 1, '\x7b' :: rest => do
    match skipGap true rest with
    | '\x7d' :: rest => return (table, rest)
    | rest           =>
      let (first, rest) ← readSum fuel true room rest
      if !first.hashable then none
      match rest with
      | ':' :: rest    => return (table, ← readEntries fuel room (skipGap true rest))
      | ',' :: rest    =>
        let (items, _, rest) ← readItems fuel true room (skipGap true rest)
        let '\x7d' :: rest := rest | none
        if allHashable items then return (set, rest) else none
      | '\x7d' :: rest => return (set, rest)
      | _              => none
  | _ + 1, _, _, '.' :: '.' :: '.' :: rest => some (constant, rest)
  | _ + 1, nested, _, cs =>
    match readNumber cs with
    | some (magnitude, rest) => some (number false magnitude, rest)
    | none                   => readTexts nested cs.length cs <|> readName nested cs
  | 0, _, _, _ => none

def readSum : Nat → Bool → Nat → List Char → Option (Literal × List Char)
  | 0, _, _, _ => none
  | fuel + 1, nested, room, cs => do
    let (left, rest) ←
      match cs with
      | c :: rest =>
        if c = '+' ∨ c = '-' then
          match ← readAtom fuel nested room (skipGap nested rest) with
          | (number false magnitude, rest) => some (number true magnitude, rest)
          | _                              => none
        else readAtom fuel nested room (c :: rest)
      | [] => none
    match skipGap nested rest with
    | c :: rest' =>
      if c = '+' ∨ c = '-' then
        let (right, rest) ← readAtom fuel nested room (skipGap nested rest')
        return (← plus? left right, skipGap nested rest)
      else return (left, c :: rest')
    | [] => return (left, [])

def readItems : Nat → Bool → Nat → List Char → Option (List Literal × Bool × List Char)
  | 0, _, _, _ => none
  | fuel + 1, nested, room, cs =>
    if ends cs then some ([], false, cs)
    else do
      let (item, rest) ← readSum fuel nested room cs
      match rest with
      | ',' :: rest =>
        let (items, _, rest) ← readItems fuel nested room (skipGap nested rest)
        return (item :: items, false, rest)
      | rest => return ([item], true, rest)

def readEntries : Nat → Nat → List Char → Option (List Char)
  | 0, _, _ => none
  | fuel + 1, room, cs => do
    let (_, rest) ← readSum fuel true room cs
    match rest with
    | '\x7d' :: rest => return rest
    | ',' :: rest    =>
      match skipGap true rest with
      | '\x7d' :: rest => return rest
      | rest           =>
        let (key, rest) ← readSum fuel true room rest
        let ':' :: rest := rest | none
        if key.hashable then readEntries fuel room (skipGap true rest) else none
    | _ => none

end

def unifyNewlines : List Char → List Char
  | '\r' :: '\n' :: rest => '\n' :: unifyNewlines rest
  | c :: rest            => (if c = '\r' then '\n' else c) :: unifyNewlines rest
  | []                   => []

def read? (cs : List Char) : Option Literal := do
  if cs.contains '\x00' then none
  let cs ← skipLines false false <| unifyNewlines <| cs.dropWhile fun c => c = ' ' || c = '\t'
  let (items, single, rest) ← readItems (3 * cs.length + 3) false nestingLimit cs
  unless (skipGap true rest).isEmpty do none
  match items, single with
  | [], _        => none
  | [item], true => return item
  | items, _     => return tuple items

end Literal
end CatalogSearch
