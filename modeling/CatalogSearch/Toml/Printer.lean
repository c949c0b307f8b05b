import CatalogSearch.Error
import CatalogSearch.Value.Basic

namespace CatalogSearch.Toml

def escape (c : Char) : List Char :=
  if c = '"' then ['\\', '"']
  else if c = '\\' then ['\\', '\\']
  else if c = '\x08' then ['\\', 'b']
  else if c = '\n' then ['\\', 'n']
  else if c = '\x0c' then ['\\', 'f']
  else if c = '\r' then ['\\', 'r']
  else if (c.toNat < 0x20 ∧ c ≠ '\t') ∨ c.toNat = 0x7F then '\\' :: 'u' :: hexDigits 4 c.toNat
  else [c]

def stringText (s : String) : String :=
  String.ofList <| '"' :: s.toList.flatMap escape ++ ['"']

def isBare (c : Char) : Bool :=
  ('a' ≤ c && c ≤ 'z') || ('A' ≤ c && c ≤ 'Z') || ('0' ≤ c && c ≤ '9') || c = '-' || c = '_'

def keyText (key : String) : String :=
  if key ≠ "" ∧ key.toList.all isBare then key else stringText key

def indent (level : Nat) : String :=
  String.ofList <| List.replicate (4 * level) ' '

mutual

def literal (level : Nat) : Value → Except Misuse String
  | .null      => .error .wrongKind
  | .bool b    => .ok <| if b then "true" else "false"
  | .int n     => .ok <| intText n
  | .double x  => .ok x.text
  | .str s     => .ok <| stringText s
  | .date s    => .ok s
  | .list []   => .ok "[]"
  | .list (v :: vs) => do
    let lines ← itemLines (level + 1) (v :: vs)
    return "[\n" ++ String.join lines ++ indent level ++ "]"
  | .object [] => .ok "\x7b\x7d"
  | .object (m :: ms) => do
    return "\x7b " ++ ", ".intercalate (← inlineEntries (m :: ms)) ++ " \x7d"

def itemLines (level : Nat) : List Value → Except Misuse (List String)
  | []      => .ok []
  | v :: vs => do return (indent level ++ (← literal level v) ++ ",\n") :: (← itemLines level vs)

def inlineEntries : List (String × Value) → Except Misuse (List String)
  | []           => .ok []
  | (k, v) :: ms => do return (keyText k ++ " = " ++ (← literal 0 v)) :: (← inlineEntries ms)

end

def isTable : Value → Bool
  | .object _ => true
  | _         => false

def lineLimit : Nat := 100

def fitsLine (item : Value) : Except Misuse Bool := do
  let line := indent 1 ++ (← literal 1 item) ++ ","
  return line.length ≤ lineLimit && !line.contains '\n'

def standsApart : Value → Except Misuse Bool
  | .object _       => return true
  | .list []        => return false
  | .list (v :: vs) => do
    if (v :: vs).all isTable then return !(← (v :: vs).mapM fitsLine).all id else return false
  | _               => return false

def entryLines (table : List (String × Value)) : Except Misuse (List String) := do
  (← table.filterM fun entry => return !(← standsApart entry.2)).mapM fun (key, v) => do
    return keyText key ++ " = " ++ (← literal 0 v) ++ "\n"

def header (name : String) (listed : Bool) : String :=
  if listed then "[[" ++ name ++ "]]\n" else "[" ++ name ++ "]\n"

mutual

-- A table and the tables in it, or the tables of a list. A table that only holds tables needs no header,
-- unless it is one of a list.
def tableTexts (name : String) (listed : Bool) : Value → Except Misuse (List String)
  | .object ms => do
    let entries ← entryLines ms
    let inner ← innerTexts name ms
    let headed := listed ∨ name ≠ "" ∧ (!entries.isEmpty ∨ inner.isEmpty)
    let own := String.join <| (if headed then [header name listed] else []) ++ entries
    return if own = "" then inner else own :: inner
  | .list vs   => listedTexts name vs
  | _          => return []

def listedTexts (name : String) : List Value → Except Misuse (List String)
  | []      => .ok []
  | v :: vs => do return (← tableTexts name true v) ++ (← listedTexts name vs)

def innerTexts (name : String) : List (String × Value) → Except Misuse (List String)
  | []           => .ok []
  | (k, v) :: ms => do
    let key := keyText k
    let own ←
      if ← standsApart v then tableTexts (if name = "" then key else name ++ "." ++ key) false v else pure []
    return own ++ (← innerTexts name ms)

end

def text (document : Value) : Except Misuse String := do
  return "\n".intercalate (← tableTexts "" false document)

end CatalogSearch.Toml
