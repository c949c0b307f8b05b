namespace CatalogSearch.Reserved

def single : List Char :=
  ['\\', '+', '-', '!', '(', ')', '\x7b', '\x7d', '[', ']', '^', '~', '*', '?', ':', '"', ';', '/']

def escapeChars : List Char → List Char
  | '&' :: '&' :: rest => '\\' :: '&' :: '&' :: escapeChars rest
  | '|' :: '|' :: rest => '\\' :: '|' :: '|' :: escapeChars rest
  | c :: rest          => if single.contains c then '\\' :: c :: escapeChars rest else c :: escapeChars rest
  | []                 => []

def escape (code : String) : String :=
  String.ofList <| escapeChars code.toList

end CatalogSearch.Reserved
