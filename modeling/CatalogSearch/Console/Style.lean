import CatalogSearch.Console.Color
import CatalogSearch.Text.Lowercase

namespace CatalogSearch

inductive StyleAttribute where
  | bold
  | dim
  | italic
  | underline
  | blink
  | blink2
  | reverse
  | conceal
  | strike
  | underline2
  | frame
  | encircle
  | overline
  deriving DecidableEq

namespace StyleAttribute

def all : List StyleAttribute :=
  [bold, dim, italic, underline, blink, blink2, reverse, conceal, strike, underline2, frame, encircle, overline]

def name : StyleAttribute → String
  | bold       => "bold"
  | dim        => "dim"
  | italic     => "italic"
  | underline  => "underline"
  | blink      => "blink"
  | blink2     => "blink2"
  | reverse    => "reverse"
  | conceal    => "conceal"
  | strike     => "strike"
  | underline2 => "underline2"
  | frame      => "frame"
  | encircle   => "encircle"
  | overline   => "overline"

def shortName? : StyleAttribute → Option String
  | bold       => some "b"
  | dim        => some "d"
  | italic     => some "i"
  | underline  => some "u"
  | reverse    => some "r"
  | conceal    => some "c"
  | strike     => some "s"
  | underline2 => some "uu"
  | overline   => some "o"
  | _          => none

def ofName? (word : String) : Option StyleAttribute :=
  all.find? fun a => a.name = word ∨ a.shortName? = some word

end StyleAttribute

structure Style where
  attributes : List (StyleAttribute × Bool) := []
  color      : Option String := none
  background : Option String := none
  link       : Option String := none

namespace Style

def set (s : Style) (a : StyleAttribute) (on : Bool) : Style :=
  { s with attributes := (a, on) :: s.attributes }

def attributeWords (s : Style) : List String :=
  StyleAttribute.all.filterMap fun a =>
    (s.attributes.lookup a).map fun on => if on then a.name else "not " ++ a.name

def text (s : Style) : String :=
  let words := s.attributeWords ++ s.color.toList ++ (s.background.map ("on " ++ ·)).toList ++
    (s.link.map ("link " ++ ·)).toList
  if words.isEmpty then "none" else " ".intercalate words

def readWords (s : Style) : List String → Except Misuse (Option Style)
  | []           => .ok (some s)
  | word :: rest =>
    match lowercase word, rest with
    | "on", word :: rest => do
      let color := lowercase word
      if ← Color.isColor color then readWords { s with background := some color } rest else return none
    | "not", word :: rest =>
      match StyleAttribute.ofName? word with
      | some a => readWords (s.set a false) rest
      | none   => .ok none
    | "link", place :: rest => readWords { s with link := some place } rest
    | word, rest =>
      match StyleAttribute.ofName? word with
      | some a => readWords (s.set a true) rest
      | none   => do
        if ← Color.isColor word then readWords { s with color := some word } rest else return none

-- The name of the style that a text describes. Any other text is a name by itself, in small letters.
def nameOf (definition : String) : Except Misuse String := do
  if strip definition = "none" then return "none"
  match ← readWords {} (wordsOf definition) with
  | some s => return s.text
  | none   => return lowercase (strip definition)

end Style
end CatalogSearch
