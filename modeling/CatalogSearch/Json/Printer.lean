import CatalogSearch.Error
import CatalogSearch.Text.Quoted
import CatalogSearch.Value.Basic

namespace CatalogSearch.Json

def units (c : Char) : List Nat :=
  if c.toNat < 0x10000 then [c.toNat]
  else [0xD800 + (c.toNat - 0x10000) / 0x400, 0xDC00 + (c.toNat - 0x10000) % 0x400]

def escape (c : Char) : List Char :=
  if c = '"' then ['\\', '"']
  else if c = '\\' then ['\\', '\\']
  else if c = '\n' then ['\\', 'n']
  else if c = '\r' then ['\\', 'r']
  else if c = '\t' then ['\\', 't']
  else if c = '\x0c' then ['\\', 'f']
  else if c = '\x08' then ['\\', 'b']
  else if ' ' ≤ c ∧ c ≤ '~' then [c]
  else (units c).flatMap fun unit => '\\' :: 'u' :: hexDigits 4 unit

def stringText (s : String) : String :=
  String.ofList <| '"' :: s.toList.flatMap escape ++ ['"']

def doubleText : Double → String
  | .nan             => "NaN"
  | .infinite true   => "-Infinity"
  | .infinite false  => "Infinity"
  | x                => x.text

mutual

def text : Value → String
  | .null      => "null"
  | .bool b    => if b then "true" else "false"
  | .int n     => intText n
  | .double x  => doubleText x
  | .str s     => stringText s
  | .date s    => stringText s
  | .list vs   => "[" ++ ", ".intercalate (itemTexts vs) ++ "]"
  | .object ms => "\x7b" ++ ", ".intercalate (memberTexts ms) ++ "\x7d"

def itemTexts : List Value → List String
  | []      => []
  | v :: vs => text v :: itemTexts vs

def memberTexts : List (String × Value) → List String
  | []           => []
  | (k, v) :: ms => (stringText k ++ ": " ++ text v) :: memberTexts ms

end

-- A value as the name of a member. Only texts, numbers and constants are names.
def nameOf : Value → Except Misuse String
  | .str s              => .ok s
  | .list _ | .object _ => .error .wrongKind
  | v                   => .ok (text v)

end CatalogSearch.Json
