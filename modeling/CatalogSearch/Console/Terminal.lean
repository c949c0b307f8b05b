import CatalogSearch.Console.ControlSequence
import CatalogSearch.Text.Blank

namespace CatalogSearch

structure Terminal where
  lines : List String := []
  shown : String := ""

namespace Terminal

def promptOf (question : String) : String :=
  withoutControls (question ++ " [y/N]:") ++ " "

def complaint : String := "Error: invalid input\n"

def answerOf? (line : String) : Option Bool :=
  match (strip line).toLower with
  | "y" | "yes"     => some true
  | "n" | "no" | "" => some false
  | _               => none

def confirm (t : Terminal) (question : String) : Option Bool × Terminal :=
  go t.shown t.lines
where
  go (shown : String) : List String → Option Bool × Terminal
    | []            => (none, ⟨[], shown ++ promptOf question⟩)
    | line :: lines =>
      let shown := shown ++ promptOf question ++ line ++ "\n"
      match answerOf? line with
      | some answer => (some answer, ⟨lines, shown⟩)
      | none        => go (shown ++ complaint) lines

def linesOf (line : List Char) : List Char → List String
  | []                   => if line.isEmpty then [] else [String.ofList line.reverse]
  | '\r' :: '\n' :: rest => String.ofList line.reverse :: linesOf [] rest
  | c :: rest            =>
    if c = '\n' ∨ c = '\r' then String.ofList line.reverse :: linesOf [] rest else linesOf (c :: line) rest

def ofInput (input : String) : Terminal where
  lines := linesOf [] input.toList

end Terminal
end CatalogSearch
