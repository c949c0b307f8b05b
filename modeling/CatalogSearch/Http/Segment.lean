namespace CatalogSearch.Segment

def utf8 (c : Char) : List Nat :=
  let n := c.toNat
  if n < 0x80 then [n]
  else if n < 0x800 then [0xC0 + n / 0x40, 0x80 + n % 0x40]
  else if n < 0x10000 then [0xE0 + n / 0x1000, 0x80 + n / 0x40 % 0x40, 0x80 + n % 0x40]
  else [0xF0 + n / 0x40000, 0x80 + n / 0x1000 % 0x40, 0x80 + n / 0x40 % 0x40, 0x80 + n % 0x40]

def isPlain (c : Char) : Bool :=
  ('a' ≤ c && c ≤ 'z') || ('A' ≤ c && c ≤ 'Z') || ('0' ≤ c && c ≤ '9') ||
  c = '_' || c = '.' || c = '-' || c = '~'

def hexDigit (n : Nat) : Char :=
  if n < 10 then Char.ofNat (48 + n) else Char.ofNat (55 + n)

def escapeByte (byte : Nat) : List Char :=
  ['%', hexDigit (byte / 16), hexDigit (byte % 16)]

def encodeChar (c : Char) : List Char :=
  if isPlain c then [c] else (utf8 c).flatMap escapeByte

def encode (s : String) : String :=
  String.ofList <| s.toList.flatMap encodeChar

end CatalogSearch.Segment
