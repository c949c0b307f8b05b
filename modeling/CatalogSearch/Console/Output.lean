import CatalogSearch.Error

namespace CatalogSearch

structure Glyph where
  char   : Char
  styles : List String
  deriving DecidableEq

abbrev StyledText := List Glyph

def StyledText.plain (t : StyledText) : String :=
  String.ofList <| t.map (·.char)

-- A console shows texts with markup in them. Text that has none of its own is escaped.
class Console where
  read   : String → Except Misuse StyledText
  title  : String → Except Misuse StyledText
  escape : String → String

namespace Console

def styled (style text : String) : String :=
  "[" ++ style ++ "]" ++ text ++ "[/" ++ style ++ "]"

def labelled (style label text : String) : String :=
  styled style label ++ " " ++ text

end Console

inductive Channel where
  | out
  | err
  deriving DecidableEq

structure Table where
  title   : String
  heading : StyledText
  columns : List String
  rows    : List (List StyledText)

inductive Output where
  | line     (channel : Channel) (text : StyledText)
  | table    (t : Table)
  | document (body : Value)
  | raw      (channel : Channel) (text : String)
  | colorOff -- From here on styles are not shown.

def Table.read [Console] (title : String) (columns : List String) (rows : List (List String)) :
    Except Misuse Table := do
  let rows ← rows.mapM (·.mapM Console.read)
  return { title, columns, rows, heading := ← Console.title title }

end CatalogSearch
