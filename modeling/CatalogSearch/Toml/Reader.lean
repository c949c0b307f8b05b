import CatalogSearch.Calendar
import CatalogSearch.Json.Reader

namespace CatalogSearch.Toml

abbrev Entries := List (String × Value)

def isSpace (c : Char) : Bool := c = ' ' || c = '\t'
def isSpaceOrNewline (c : Char) : Bool := isSpace c || c = '\n'

def isControl (c : Char) : Bool :=
  (c.toNat < 0x20 && c != '\t') || c.toNat = 0x7F

def isBareKeyChar (c : Char) : Bool :=
  ('a' ≤ c && c ≤ 'z') || ('A' ≤ c && c ≤ 'Z') || isAsciiDigit c || c = '-' || c = '_'

def skipSpace (cs : List Char) : List Char := cs.dropWhile isSpace

def skipComment : List Char → Option (List Char)
  | '#' :: cs =>
    match cs.span (· ≠ '\n') with
    | (comment, rest) => if comment.any isControl then none else some rest
  | cs => some cs

-- Skips what may stand between the items of a list. Every comment and the line end behind it take up
-- characters, so the number of characters bounds the number of rounds.
def skipFiller : Nat → List Char → Option (List Char)
  | 0, cs => some cs
  | fuel + 1, cs =>
    match cs.dropWhile isSpaceOrNewline with
    | '#' :: rest => do skipFiller fuel (← skipComment ('#' :: rest))
    | rest        => some rest

def scalar? (n : Nat) : Option Char :=
  if n.isValidChar then some (Char.ofNat n) else none

def escapedChar? : Char → Option Char
  | 'b'  => some '\x08'
  | 't'  => some '\t'
  | 'n'  => some '\n'
  | 'f'  => some '\x0c'
  | 'r'  => some '\r'
  | '"'  => some '"'
  | '\\' => some '\\'
  | _    => none

def readEscape : List Char → Option (List Char × List Char)
  | 'u' :: rest => code 4 rest
  | 'U' :: rest => code 8 rest
  | c :: rest   => (escapedChar? c).map fun e => ([e], rest)
  | []          => none
where
  code (width : Nat) (cs : List Char) : Option (List Char × List Char) := do
    if (cs.take width).length ≠ width then none
    let c ← scalar? (← Json.readHex (cs.take width))
    return ([c], cs.drop width)

-- Between three quotation marks a backslash at the end of a line joins the line with the next text.
def readLineEnd (cs : List Char) : Option (List Char) :=
  match skipSpace cs with
  | '\n' :: rest => some <| rest.dropWhile isSpaceOrNewline
  | _            => none

def readBasic (multiline : Bool) : Nat → List Char → Option (List Char × List Char)
  | 0, _ => none
  | fuel + 1, cs =>
    match cs with
    | [] => none
    | '"' :: rest =>
      if !multiline then some ([], rest)
      else
        match rest with
        | '"' :: '"' :: rest => some ([], rest)
        | _                  => (readBasic multiline fuel rest).map fun (s, rest) => ('"' :: s, rest)
    | '\\' :: rest => do
      let (e, rest) ←
        match rest with
        | c :: _ => if multiline && isSpaceOrNewline c then (readLineEnd rest).map ([], ·) else readEscape rest
        | []     => none
      let (s, rest) ← readBasic multiline fuel rest
      return (e ++ s, rest)
    | c :: rest =>
      if isControl c && !(multiline && c = '\n') then none
      else (readBasic multiline fuel rest).map fun (s, rest) => (c :: s, rest)

def readLiteral (multiline : Bool) : List Char → Option (List Char × List Char)
  | [] => none
  | '\'' :: '\'' :: '\'' :: rest => if multiline then some ([], rest) else some ([], '\'' :: '\'' :: rest)
  | c :: rest =>
    if c = '\'' && !multiline then some ([], rest)
    else if isControl c && !(multiline && c = '\n') then none
    else (readLiteral multiline rest).map fun (s, rest) => (c :: s, rest)

-- Behind the three closing marks, up to two more of them belong to the text.
def takeExtraMarks (mark : Char) (s rest : List Char) : List Char × List Char :=
  match rest with
  | a :: b :: rest' =>
    if a = mark ∧ b = mark then (s ++ [mark, mark], rest')
    else if a = mark then (s ++ [mark], b :: rest')
    else (s, rest)
  | [a] => if a = mark then (s ++ [mark], []) else (s, rest)
  | []  => (s, rest)

def skipNewline : List Char → List Char
  | '\n' :: rest => rest
  | cs           => cs

def readText (oneLine : Bool) : List Char → Option (String × List Char)
  | '"' :: '"' :: '"' :: rest =>
    if oneLine then some ("", '"' :: rest)
    else (readBasic true (rest.length + 1) (skipNewline rest)).map fun (s, rest) =>
      let (s, rest) := takeExtraMarks '"' s rest
      (String.ofList s, rest)
  | '\'' :: '\'' :: '\'' :: rest =>
    if oneLine then some ("", '\'' :: rest)
    else (readLiteral true (skipNewline rest)).map fun (s, rest) =>
      let (s, rest) := takeExtraMarks '\'' s rest
      (String.ofList s, rest)
  | '"' :: rest  => (readBasic false (rest.length + 1) rest).map fun (s, rest) => (String.ofList s, rest)
  | '\'' :: rest => (readLiteral false rest).map fun (s, rest) => (String.ofList s, rest)
  | _            => none

def readKeyPart (cs : List Char) : Option (String × List Char) :=
  match cs.span isBareKeyChar with
  | ([], _)      => readText true cs
  | (part, rest) => some (String.ofList part, rest)

def readKey : Nat → List Char → Option (List String × List Char)
  | 0, _ => none
  | fuel + 1, cs => do
    let (part, rest) ← readKeyPart (skipSpace cs)
    match skipSpace rest with
    | '.' :: rest =>
      let (parts, rest) ← readKey fuel rest
      return (part :: parts, rest)
    | rest => return ([part], rest)

def readDigits (isDigit : Char → Bool) : List Char → List Char × List Char
  | '_' :: c :: cs =>
    if isDigit c then
      let (ds, rest) := readDigits isDigit cs
      (c :: ds, rest)
    else ([], '_' :: c :: cs)
  | c :: cs =>
    if isDigit c then
      let (ds, rest) := readDigits isDigit cs
      (c :: ds, rest)
    else ([], c :: cs)
  | [] => ([], [])

def readDigits? (isDigit : Char → Bool) (cs : List Char) : Option (List Char × List Char) :=
  match cs with
  | c :: _ => if isDigit c then some (readDigits isDigit cs) else none
  | []     => none

def radixOf? : Char → Option Nat
  | 'x' => some 16
  | 'o' => some 8
  | 'b' => some 2
  | _   => none

def isDigitOf (radix : Nat) (c : Char) : Bool :=
  (Json.hexValue? c).any (· < radix)

def readRadix : List Char → Option (Value × List Char)
  | '0' :: mark :: rest => do
    let radix ← radixOf? mark
    let (ds, rest) ← readDigits? (isDigitOf radix) rest
    let n := ds.foldl (fun n c => n * radix + (Json.hexValue? c).getD 0) 0
    return (.int n, rest)
  | _ => none

def readSign : List Char → Bool × List Char
  | '-' :: rest => (true, rest)
  | '+' :: rest => (false, rest)
  | rest        => (false, rest)

def readWhole : List Char → Option (List Char × List Char)
  | '0' :: rest => some (['0'], rest)
  | cs          => readDigits? isAsciiDigit cs

def readFraction (cs : List Char) : Option (List Char) × List Char :=
  match cs with
  | '.' :: rest =>
    match readDigits? isAsciiDigit rest with
    | some (ds, rest) => (some ds, rest)
    | none            => (none, cs)
  | _ => (none, cs)

def readExponent (cs : List Char) : Option Int × List Char :=
  match cs with
  | e :: rest =>
    if e = 'e' ∨ e = 'E' then
      let (negative, rest) := readSign rest
      match readDigits? isAsciiDigit rest with
      | some (ds, rest) => (some <| Double.signed negative (digitsValue ds), rest)
      | none            => (none, cs)
    else (none, cs)
  | [] => (none, cs)

def readDecimal (cs : List Char) : Option (Except ReadFault Value × List Char) := do
  let (negative, rest) := readSign cs
  let (whole, rest) ← readWhole rest
  let (fraction, rest) := readFraction rest
  let (exponent, rest) := readExponent rest
  if fraction.isNone && exponent.isNone then
    if Integer.digitLimit < whole.length then return (.error .longNumber, rest)
    else return (.ok <| .int (Double.signed negative (digitsValue whole)), rest)
  else
    let fraction := fraction.getD []
    let digits := digitsValue (whole ++ fraction)
    return (.ok <| .double <| .ofDecimal negative digits (exponent.getD 0 - fraction.length), rest)

def readSpecial (cs : List Char) : Option (Value × List Char) :=
  let (negative, rest) := readSign cs
  match rest with
  | 'i' :: 'n' :: 'f' :: rest => some (.double (.infinite negative), rest)
  | 'n' :: 'a' :: 'n' :: rest => some (.double .nan, rest)
  | _                         => none

def readPair (low high : Nat) : List Char → Option (Nat × List Char)
  | a :: b :: rest =>
    let n := digitsValue [a, b]
    if isAsciiDigit a ∧ isAsciiDigit b ∧ low ≤ n ∧ n ≤ high then some (n, rest) else none
  | _ => none

def expect (c : Char) : List Char → Option (List Char)
  | d :: rest => if d = c then some rest else none
  | []        => none

def readTime (cs : List Char) : Option (List Char) := do
  let (_, rest) ← readPair 0 23 cs
  let (_, rest) ← readPair 0 59 (← expect ':' rest)
  let (_, rest) ← readPair 0 59 (← expect ':' rest)
  match rest with
  | '.' :: rest' =>
    match rest'.span isAsciiDigit with
    | ([], _)     => return rest
    | (_, rest'') => return rest''
  | _ => return rest

def skipOffset (cs : List Char) : List Char :=
  match cs with
  | c :: rest =>
    if c = 'Z' ∨ c = 'z' then rest
    else if c = '+' ∨ c = '-' then
      (do
        let (_, rest) ← readPair 0 23 rest
        let (_, rest) ← readPair 0 59 (← expect ':' rest)
        return rest).getD cs
    else cs
  | [] => cs

def readDay (cs : List Char) : Option (Bool × List Char) := do
  let (century, rest) ← readPair 0 99 cs
  let (year, rest) ← readPair 0 99 rest
  let (month, rest) ← readPair 1 12 (← expect '-' rest)
  let (day, rest) ← readPair 1 31 (← expect '-' rest)
  return (decide (Calendar.Valid (century * 100 + year : Nat) month day), rest)

def readDayAndTime (cs : List Char) : Option (Bool × List Char) := do
  let (valid, rest) ← readDay cs
  let timed :=
    match rest with
    | c :: rest => if c = 'T' ∨ c = 't' ∨ c = ' ' then (readTime rest).map skipOffset else none
    | []        => none
  return (valid, timed.getD rest)

def taken (cs rest : List Char) : String :=
  String.ofList <| cs.take (cs.length - rest.length)

def readNumberOrDate (cs : List Char) : Except ReadFault (Value × List Char) :=
  match readDayAndTime cs with
  | some (valid, rest) => if valid then .ok (.date (taken cs rest), rest) else .error .malformed
  | none =>
    match readTime cs, readRadix cs, readDecimal cs with
    | some rest, _, _          => .ok (.date (taken cs rest), rest)
    | none, some read, _       => .ok read
    | none, none, some (v, rest) => do return (← v, rest)
    | none, none, none         => orMalformed (readSpecial cs)

-- Changes the table at the end of a path, and makes the tables on the way. Where a list is on the way,
-- its last table is meant, if lists may be entered at all.
def atPath (enterLists : Bool) (change : Entries → Option Entries) :
    List String → Entries → Option Entries
  | [], table => change table
  | key :: path, table => do
    let inner ←
      match table.lookup key with
      | none               => (atPath enterLists change path []).map .object
      | some (.object ms)  => (atPath enterLists change path ms).map .object
      | some (.list vs)    =>
        match enterLists, vs.getLast? with
        | true, some (.object ms) =>
          (atPath enterLists change path ms).map fun ms => .list (vs.dropLast ++ [.object ms])
        | _, _ => none
      | some _ => none
    return setEntry key inner table

def define (key : String) (v : Value) (table : Entries) : Option Entries :=
  if (table.lookup key).isSome then none else some <| setEntry key v table

def addToList (key : String) (table : Entries) : Option Entries :=
  match table.lookup key with
  | none            => some <| setEntry key (.list [.object []]) table
  | some (.list vs) => some <| setEntry key (.list (vs ++ [.object []])) table
  | some _          => none

-- Why a key may not be defined any more: it has its table, or it and all below are complete.
inductive Mark where
  | declared
  | frozen
  deriving DecidableEq

abbrev Marks := List (List String × Mark)

namespace Marks

def has (marks : Marks) (key : List String) (mark : Mark) : Bool :=
  marks.any fun (k, m) => m = mark && (k = key || (m = .frozen && k.isPrefixOf key))

def free (marks : Marks) (key : List String) : Marks :=
  marks.filter fun (k, _) => !key.isPrefixOf k

end Marks

-- Of the room for values inside of others a list takes up two units, and a table three.
def enter (units room : Nat) : Except ReadFault Nat :=
  if units ≤ room then .ok (room - units) else .error .deepNesting

mutual

-- The fuel bounds the depth of the call. Every second call at the latest consumes a character.
def readValue : Nat → Nat → List Char → Except ReadFault (Value × List Char)
  | 0, _, _ => .error .malformed
  | fuel + 1, room, cs =>
    match cs with
    | 't' :: 'r' :: 'u' :: 'e' :: rest        => .ok (.bool true, rest)
    | 'f' :: 'a' :: 'l' :: 's' :: 'e' :: rest => .ok (.bool false, rest)
    | '[' :: rest => do
      let (vs, rest) ← readItems fuel (← enter 2 room) rest
      return (.list vs, rest)
    | '\x7b' :: rest => do
      let room ← enter 3 room
      match skipSpace rest with
      | '\x7d' :: rest => return (.object [], rest)
      | rest           =>
        let (ms, rest) ← readInline fuel room [] [] rest
        return (.object ms, rest)
    | c :: _ =>
      if c = '"' ∨ c = '\'' then do
        let (s, rest) ← orMalformed (readText false cs)
        return (.str s, rest)
      else readNumberOrDate cs
    | [] => .error .malformed

def readItems : Nat → Nat → List Char → Except ReadFault (List Value × List Char)
  | 0, _, _ => .error .malformed
  | fuel + 1, room, cs => do
    match ← orMalformed (skipFiller cs.length cs) with
    | ']' :: rest => return ([], rest)
    | cs =>
      let (v, rest) ← readValue fuel room cs
      match ← orMalformed (skipFiller rest.length rest) with
      | ',' :: rest =>
        let (vs, rest) ← readItems fuel room rest
        return (v :: vs, rest)
      | ']' :: rest => return ([v], rest)
      | _           => throw .malformed

def readInline : Nat → Nat → Marks → Entries → List Char → Except ReadFault (Entries × List Char)
  | 0, _, _, _, _ => .error .malformed
  | fuel + 1, room, marks, table, cs => do
    let (key, rest) ← orMalformed (readKey cs.length cs)
    let rest ← orMalformed (expect '=' rest)
    let (v, rest) ← readValue fuel room (skipSpace rest)
    if marks.has key .frozen then throw .malformed
    let table ← orMalformed (atPath false (define (key.getLast?.getD "") v) key.dropLast table)
    match skipSpace rest with
    | '\x7d' :: rest => return (table, rest)
    | ',' :: rest    =>
      let marks := match v with
        | .list _ | .object _ => (key, .frozen) :: marks
        | _                   => marks
      readInline fuel room marks table (skipSpace rest)
    | _ => throw .malformed

end

structure State where
  header  : List String := []
  table   : Entries := []
  marks   : Marks := []
  pending : Marks := []

-- Dotted keys close their tables when the next header comes.
def State.settle (s : State) : State :=
  { s with marks := s.pending ++ s.marks, pending := [] }

def readHeader (s : State) (cs : List Char) : Option (State × List Char) := do
  let (key, rest) ← readKey (cs.length + 1) cs
  let s := s.settle
  if s.marks.has key .declared || s.marks.has key .frozen then none
  let table ← atPath true some key s.table
  return ({ s with table, header := key, marks := (key, .declared) :: s.marks }, ← expect ']' rest)

def readListHeader (s : State) (cs : List Char) : Option (State × List Char) := do
  let (key, rest) ← readKey (cs.length + 1) cs
  let s := s.settle
  if s.marks.has key .frozen then none
  let table ← atPath true (addToList (key.getLast?.getD "")) key.dropLast s.table
  let marks := (key, .declared) :: s.marks.free key
  return ({ s with table, header := key, marks }, ← expect ']' (← expect ']' rest))

def readEntry (room : Nat) (s : State) (cs : List Char) : Except ReadFault (State × List Char) := do
  let (key, rest) ← orMalformed (readKey (cs.length + 1) cs)
  let rest ← orMalformed (expect '=' rest)
  let (v, rest) ← readValue (2 * rest.length + 2) room (skipSpace rest)
  let inner := (List.range (key.length - 1)).map fun n => s.header ++ key.take (n + 1)
  if inner.any (s.marks.has · .declared) then throw .malformed
  let pending := inner.map (·, .declared) ++ s.pending
  let place := s.header ++ key.dropLast
  if s.marks.has place .frozen then throw .malformed
  let table ← orMalformed (atPath true (define (key.getLast?.getD "") v) place s.table)
  let marks := match v with
    | .list _ | .object _ => (s.header ++ key, .frozen) :: s.marks
    | _                   => s.marks
  return ({ s with table, marks, pending }, rest)

def readStatements (room : Nat) : Nat → State → List Char → Except ReadFault State
  | 0, _, _ => .error .malformed
  | fuel + 1, s, cs => do
    let (s, rest) ←
      match skipSpace cs with
      | []                 => .ok (s, [])
      | '\n' :: rest       => .ok (s, '\n' :: rest)
      | '#' :: rest        => .ok (s, '#' :: rest)
      | '[' :: '[' :: rest => orMalformed (readListHeader s rest)
      | '[' :: rest        => orMalformed (readHeader s rest)
      | rest               => readEntry room s rest
    match ← orMalformed (skipComment (skipSpace rest)) with
    | []           => return s
    | '\n' :: rest => readStatements room fuel s rest
    | _            => throw .malformed

def unifyNewlines : List Char → List Char
  | '\r' :: '\n' :: rest => '\n' :: unifyNewlines rest
  | c :: rest            => c :: unifyNewlines rest
  | []                   => []

def read (s : String) (nesting : Nat := ({} : Nesting).toml) : Except ReadFault Value := do
  let cs := unifyNewlines s.toList
  return .object (← readStatements nesting (cs.length + 1) {} cs).table

end CatalogSearch.Toml
