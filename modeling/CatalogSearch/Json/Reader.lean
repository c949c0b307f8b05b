import CatalogSearch.Text.Integer
import CatalogSearch.Value.Fault

namespace CatalogSearch.Json

def isSpace (c : Char) : Bool :=
  c = ' ' || c = '\t' || c = '\n' || c = '\r'

def skipSpace (cs : List Char) : List Char :=
  cs.dropWhile isSpace

def hexValue? (c : Char) : Option Nat :=
  let n := c.toNat
  if 48 ≤ n ∧ n ≤ 57 then some (n - 48)
  else if 97 ≤ n ∧ n ≤ 102 then some (n - 87)
  else if 65 ≤ n ∧ n ≤ 70 then some (n - 55)
  else none

def readHex (cs : List Char) : Option Nat :=
  cs.foldlM (fun n c => (hexValue? c).map (n * 16 + ·)) 0

def isHighSurrogate (n : Nat) : Bool := 0xD800 ≤ n && n < 0xDC00
def isLowSurrogate (n : Nat) : Bool := 0xDC00 ≤ n && n < 0xE000

-- The characters of a sequence of code units and code points. A surrogate without its partner is no
-- character, and another one stands for it until the text is refused.
def joinUnits : List Nat → List Char
  | []             => []
  | [n]            => [charOf n]
  | n :: m :: rest =>
    if isHighSurrogate n && isLowSurrogate m then
      Char.ofNat (0x10000 + (n - 0xD800) * 0x400 + (m - 0xDC00)) :: joinUnits rest
    else
      charOf n :: joinUnits (m :: rest)
where
  charOf (n : Nat) : Char := if isHighSurrogate n || isLowSurrogate n then '\ufffd' else Char.ofNat n

def escapedChar? : Char → Option Char
  | '"'  => some '"'
  | '\\' => some '\\'
  | '/'  => some '/'
  | 'b'  => some '\x08'
  | 'f'  => some '\x0c'
  | 'n'  => some '\n'
  | 'r'  => some '\r'
  | 't'  => some '\t'
  | _    => none

def readUnits : List Char → Option (List Nat × List Char)
  | '"' :: rest => some ([], rest)
  | '\\' :: 'u' :: a :: b :: c :: d :: rest => do
    let unit ← readHex [a, b, c, d]
    let (units, rest) ← readUnits rest
    return (unit :: units, rest)
  | '\\' :: e :: rest => do
    let c ← escapedChar? e
    let (units, rest) ← readUnits rest
    return (c.toNat :: units, rest)
  | c :: rest => do
    if c.toNat < 0x20 ∨ c = '\\' then none
    let (units, rest) ← readUnits rest
    return (c.toNat :: units, rest)
  | [] => none

def isPaired : List Char → Bool
  | '\\' :: 'u' :: a :: b :: c :: d :: rest =>
    let unit := (readHex [a, b, c, d]).getD 0
    if isHighSurrogate unit then
      match rest with
      | '\\' :: 'u' :: e :: f :: g :: h :: rest =>
        isLowSurrogate ((readHex [e, f, g, h]).getD 0) && isPaired rest
      | _ => false
    else !isLowSurrogate unit && isPaired rest
  | '\\' :: _ :: rest => isPaired rest
  | _ :: rest          => isPaired rest
  | []                 => true

def readString (cs : List Char) : Option (String × List Char) :=
  (readUnits cs).map fun (units, rest) => (String.ofList (joinUnits units), rest)

def readWhole : List Char → Option (List Char × List Char)
  | '0' :: rest => some (['0'], rest)
  | cs =>
    match cs.span isAsciiDigit with
    | ([], _)  => none
    | (ds, rest) => some (ds, rest)

-- The digits behind a point. Where no digit follows, the point is not part of the number.
def readFraction : List Char → List Char × List Char
  | '.' :: rest =>
    match rest.span isAsciiDigit with
    | ([], _)  => ([], '.' :: rest)
    | (ds, rest) => (ds, rest)
  | cs => ([], cs)

def readExponent (cs : List Char) : Option Int × List Char :=
  match cs with
  | e :: rest =>
    if e = 'e' ∨ e = 'E' then
      let (negative, rest) :=
        match rest with
        | '-' :: rest => (true, rest)
        | '+' :: rest => (false, rest)
        | rest        => (false, rest)
      match rest.span isAsciiDigit with
      | ([], _)    => (none, cs)
      | (ds, rest) => (some <| Double.signed negative (digitsValue ds), rest)
    else (none, cs)
  | [] => (none, cs)

def readUnsigned (negative : Bool) (cs : List Char) : Except ReadFault (Value × List Char) := do
  let (whole, rest) ← orMalformed (readWhole cs)
  let (fraction, rest) := readFraction rest
  let (exponent, rest) := readExponent rest
  let digits := digitsValue (whole ++ fraction)
  if fraction.isEmpty && exponent.isNone then
    if Integer.digitLimit < whole.length then throw .longNumber
    return (.int (Double.signed negative digits), rest)
  else
    return (.double <| .ofDecimal negative digits (exponent.getD 0 - fraction.length), rest)

def inside : Nat → Except ReadFault Nat
  | 0        => .error .deepNesting
  | room + 1 => .ok room

mutual

-- The fuel bounds the depth of the call. Every second call at the latest consumes a character. The room is
-- the number of lists and objects that may still be entered.
def readValue : Nat → Nat → List Char → Except ReadFault (Value × List Char)
  | 0, _, _ => .error .malformed
  | fuel + 1, room, cs =>
    match cs with
    | 'n' :: 'u' :: 'l' :: 'l' :: rest        => .ok (.null, rest)
    | 't' :: 'r' :: 'u' :: 'e' :: rest        => .ok (.bool true, rest)
    | 'f' :: 'a' :: 'l' :: 's' :: 'e' :: rest => .ok (.bool false, rest)
    | 'N' :: 'a' :: 'N' :: rest               => .ok (.double .nan, rest)
    | 'I' :: 'n' :: 'f' :: 'i' :: 'n' :: 'i' :: 't' :: 'y' :: rest => .ok (.double (.infinite false), rest)
    | '-' :: 'I' :: 'n' :: 'f' :: 'i' :: 'n' :: 'i' :: 't' :: 'y' :: rest =>
      .ok (.double (.infinite true), rest)
    | '"' :: rest => do
      let (s, rest) ← orMalformed (readString rest)
      return (.str s, rest)
    | '[' :: rest => do
      let room ← inside room
      match skipSpace rest with
      | ']' :: rest => return (.list [], rest)
      | rest        =>
        let (vs, rest) ← readItems fuel room rest
        return (.list vs, rest)
    | '\x7b' :: rest => do
      let room ← inside room
      match skipSpace rest with
      | '\x7d' :: rest => return (.object [], rest)
      | rest           =>
        let (ms, rest) ← readMembers fuel room [] rest
        return (.object ms, rest)
    | '-' :: rest => readUnsigned true rest
    | cs          => readUnsigned false cs

def readItems : Nat → Nat → List Char → Except ReadFault (List Value × List Char)
  | 0, _, _ => .error .malformed
  | fuel + 1, room, cs => do
    let (v, rest) ← readValue fuel room cs
    match skipSpace rest with
    | ']' :: rest => return ([v], rest)
    | ',' :: rest =>
      let (vs, rest) ← readItems fuel room (skipSpace rest)
      return (v :: vs, rest)
    | _ => throw .malformed

def readMembers : Nat → Nat → List (String × Value) → List Char →
    Except ReadFault (List (String × Value) × List Char)
  | 0, _, _, _ => .error .malformed
  | fuel + 1, room, before, cs => do
    let '"' :: rest := cs | throw .malformed
    let (name, rest) ← orMalformed (readString rest)
    let ':' :: rest := skipSpace rest | throw .malformed
    let (v, rest) ← readValue fuel room (skipSpace rest)
    let members := setEntry name v before
    match skipSpace rest with
    | '\x7d' :: rest => return (members, rest)
    | ',' :: rest    => readMembers fuel room members (skipSpace rest)
    | _              => throw .malformed

end

def read (s : String) (nesting : Nat := ({} : Nesting).json) : Except ReadFault Value := do
  let cs := s.toList
  let (v, rest) ← readValue (2 * cs.length + 2) nesting (skipSpace cs)
  if (skipSpace rest).isEmpty then
    if isPaired cs then return v else throw .unpaired
  else throw .malformed

end CatalogSearch.Json
