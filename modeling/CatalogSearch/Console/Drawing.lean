import CatalogSearch.Console.Output
import CatalogSearch.Json.Printer

namespace CatalogSearch

def styleCode? : String → Option String
  | "info"    => some "36"
  | "warning" => some "33"
  | "error"   => some "1;31"
  | "success" => some "1;32"
  | _         => none

namespace StyledText

-- A run of characters of one style. The innermost style that has a color decides.
def drawRun (run : StyledText) : String :=
  match (run.head?.elim [] (·.styles)).findSome? styleCode? with
  | some code => "\x1b[" ++ code ++ "m" ++ run.plain ++ "\x1b[0m"
  | none      => run.plain

def draw (color : Bool) (t : StyledText) : String :=
  if color then String.join <| (t.splitBy (·.styles = ·.styles)).map drawRun else t.plain

end StyledText

namespace Table

def cells (t : Table) : List (List String) :=
  t.columns :: t.rows.map fun row => row.map StyledText.plain

def columnWidth (cells : List (List String)) (column : Nat) : Nat :=
  (cells.map fun row => (row[column]?.getD "").length).foldl max 0

def pad (width : Nat) (s : String) : String :=
  s ++ String.ofList (List.replicate (width - s.length) ' ')

def draw (t : Table) : String :=
  let line (row : List String) :=
    "  ".intercalate <| row.zipIdx.map fun (cell, column) => pad (columnWidth t.cells column) cell
  "\n".intercalate (t.heading.plain :: t.cells.map line)

end Table

def Output.draw (color : Bool) : Output → Channel × String
  | line channel text => (channel, text.draw color ++ "\n")
  | table t           => (.out, t.draw ++ "\n")
  | document body     => (.out, Json.text body ++ "\n")
  | raw channel text  => (channel, text)
  | colorOff          => (.out, "")

end CatalogSearch
