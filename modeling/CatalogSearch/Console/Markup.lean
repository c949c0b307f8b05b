import CatalogSearch.Console.Emoji
import CatalogSearch.Console.Literal
import CatalogSearch.Console.Output
import CatalogSearch.Console.Style
import CatalogSearch.Text.Word

namespace CatalogSearch

namespace Markup

inductive Mark where
  | plain   (cs : List Char)
  | tag     (cs : List Char)
  | escaped (cs : List Char)
  deriving DecidableEq

def opensTag (c : Char) : Bool :=
  ('a' ≤ c && c ≤ 'z') || c = '#' || c = '/' || c = '@'

def isBracket (c : Char) : Bool :=
  c = '[' || c = ']'

def readTag? : List Char → Option (List Char × List Char)
  | []      => none
  | c :: cs =>
    if opensTag c then
      match cs.dropWhile (!isBracket ·) with
      | ']' :: rest => some (c :: cs.takeWhile (!isBracket ·), rest)
      | _           => none
    else none

theorem readTag?_length (h : readTag? cs = some (tag, rest)) : rest.length < cs.length := by
  cases cs
  case nil => simp [readTag?] at h
  case cons hd tl =>
    have hd : (tl.dropWhile (!isBracket ·)).length ≤ tl.length := (List.dropWhile_sublist _).length_le
    simp only [readTag?] at h
    split at h
    case isFalse => cases h
    case isTrue =>
      split at h
      case h_1 heq =>
        cases h
        simp only [heq, List.length_cons] at hd ⊢
        omega
      case h_2 => cases h

def consPlain (cs : List Char) : List Mark → List Mark
  | .plain ds :: ms => .plain (cs ++ ds) :: ms
  | ms              => .plain cs :: ms

def slashes (count : Nat) : List Char :=
  List.replicate count '\\'

-- The marks of a text with so many backslashes in front of it. In front of a tag, two backslashes stand for
-- one and a last one escapes the tag. One backslash vanishes in front of a bracket that opens no tag.
def marks (count : Nat) : List Char → List Mark
  | []         => [.plain (slashes count)]
  | '\\' :: cs => marks (count + 1) cs
  | '[' :: cs  =>
    match _h : readTag? cs with
    | some (tag, rest) =>
      .plain (slashes (count / 2)) :: (if count % 2 = 0 then .tag tag else .escaped tag) :: marks 0 rest
    | none => consPlain (slashes (count - 1) ++ ['[']) (marks 0 cs)
  | c :: cs    => consPlain (slashes count ++ [c]) (marks 0 cs)
termination_by cs => cs.length
decreasing_by
  case _ => simp
  case _ => have := readTag?_length _h; simp; omega
  case _ => simp
  case _ => simp

def isShown (c : Char) : Bool :=
  !(c.toNat = 7 || c.toNat = 8 || (11 ≤ c.toNat && c.toNat ≤ 13))

structure Opening where
  name       : String
  parameters : List Char := []
  deriving DecidableEq

-- Whether parameters are those of a handler: nothing but a name, a literal in brackets behind a name, or a
-- literal.
def suitHandler (parameters : List Char) : Bool :=
  let cs := trimChars isBlank parameters
  match cs.dropWhile fun c => isWordChar c || c = '.' with
  | []          => true
  | '(' :: rest =>
    (Literal.read? <| if rest.getLast? = some ')' && !rest.contains '\n' then '(' :: rest else cs).isSome
  | _           => (Literal.read? cs).isSome

-- The parameters of a tag that is no handler are a part of the style that is painted.
def Opening.paint (o : Opening) : Except Misuse Unit :=
  if o.parameters.isEmpty || o.name.startsWith "@" then .ok ()
  else discard <| Style.nameOf (o.name ++ " " ++ String.ofList o.parameters)

def Opening.check (o : Opening) : Except Misuse Unit :=
  if o.name.startsWith "@" && !o.parameters.isEmpty && !suitHandler o.parameters then .error .notLiteral
  else .ok ()

-- Closes the style of a name that was opened last, or the last one of all if there is no name.
def close (openings : List Opening) (name : String) : Except Misuse (List Opening) := do
  let opening? ←
    if name = "" then pure openings.head?
    else do
      let name ← Style.nameOf name
      pure <| openings.find? (·.name = name)
  match opening? with
  | none         => throw .notOpen
  | some opening =>
    opening.check
    return openings.eraseP (·.name = opening.name)

def shown (openings : List Opening) (cs : List Char) : StyledText :=
  (Emoji.spell cs).filter isShown |>.map (⟨·, openings.map (·.name)⟩)

section

-- How a style is painted once all of the text has been read.
variable (paint : Opening → Except Misuse Unit)

def apply (openings : List Opening) : List Mark → Except Misuse StyledText
  | []                => .ok []
  | .plain cs :: ms   => do return shown openings cs ++ (← apply openings ms)
  | .escaped cs :: ms => do return shown openings ('[' :: cs ++ [']']) ++ (← apply openings ms)
  | .tag cs :: ms     =>
    let parameters := (cs.dropWhile (· ≠ '=')).tail
    match cs.takeWhile (· ≠ '=') with
    | '/' :: name => do apply (← close openings (strip (String.ofList name))) ms
    | name        => do
      let opening : Opening := { name := ← Style.nameOf (String.ofList name), parameters }
      let text ← apply (opening :: openings) ms
      paint opening
      return text

def read (s : String) : Except Misuse StyledText :=
  apply paint [] (marks 0 s.toList)

end

-- The text with a backslash more in front of each tag, and twice those that stand there already. So is a
-- single backslash at the end.
def escapeTags (count : Nat) : List Char → List Char
  | []         => slashes count
  | '\\' :: cs => escapeTags (count + 1) cs
  | '[' :: cs  =>
    match _h : readTag? cs with
    | some (tag, rest) =>
      slashes (2 * count + 1) ++ '[' :: tag ++ ']' :: escapeTags 0 rest
    | none => slashes count ++ '[' :: escapeTags 0 cs
  | c :: cs    => slashes count ++ c :: escapeTags 0 cs
termination_by cs => cs.length
decreasing_by
  case _ => simp
  case _ => have := readTag?_length _h; simp; omega
  case _ => simp
  case _ => simp

def escape (s : String) : String :=
  let cs := escapeTags 0 s.toList
  let last := cs.reverse.takeWhile (· = '\\')
  String.ofList <| if last.length = 1 then cs ++ ['\\'] else cs

-- A terminal paints styles and draws tables, with titles that are markup as well.
instance terminal : Console where
  read   := read Opening.paint
  title  := read Opening.paint
  escape := escape

-- What is not drawn has no styles to paint, and the titles of its tables are kept as they are.
abbrev undrawn : Console where
  read   := read fun _ => .ok ()
  title  := fun s => .ok <| s.toList.map (⟨·, []⟩)
  escape := escape

end Markup
end CatalogSearch
