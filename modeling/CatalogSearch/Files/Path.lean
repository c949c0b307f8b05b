import CatalogSearch.Error
import CatalogSearch.Text.Split

namespace CatalogSearch

abbrev Path := List String

namespace Path

def stepsOf (s : String) : List String :=
  (splitOn '/' s.toList).map String.ofList |>.filter fun step => step ≠ "" ∧ step ≠ "."

-- The text of a path as it was given, without the steps that mean nothing. Two slashes in front are
-- kept, any other number of slashes is one.
def tidy (s : String) : String :=
  let slashes := (s.toList.takeWhile (· = '/')).length
  let root := if slashes = 0 then "" else if slashes = 2 then "//" else "/"
  let text := root ++ "/".intercalate (stepsOf s)
  if text = "" then "." else text

def follow (start : Path) (steps : List String) : Path :=
  steps.foldl (fun place step => if step = ".." then place.dropLast else place ++ [step]) start

def ofText (s : String) : Path :=
  follow [] (stepsOf s)

def text (p : Path) : String :=
  "/" ++ "/".intercalate p

def within (directory : Path) (s : String) : Path :=
  if s.toList.head? = some '/' then ofText s else follow directory (stepsOf s)

def isNameable (s : String) : Bool :=
  !s.toList.contains '\x00'

def parent (p : Path) : Path := p.dropLast

def under (p dir : Path) : Bool :=
  dir.length < p.length && p.take dir.length = dir

theorem under_iff {p dir : Path} : p.under dir ↔ dir <+: p ∧ dir ≠ p := by
  simp only [under, Bool.and_eq_true, decide_eq_true_eq, List.prefix_iff_eq_take, eq_comm (a := dir)]
  grind

theorem utf8ByteSize_text_le {p q : Path} (h : q <+: p) : q.text.utf8ByteSize ≤ p.text.utf8ByteSize := by
  obtain ⟨rest, rfl⟩ := h
  by_cases hq : q = []
  case pos => simp [hq, text]
  case neg =>
    by_cases hr : rest = []
    case pos => simp [hr]
    case neg => simp only [text, String.intercalate_append_of_ne_nil hq hr, String.utf8ByteSize_append]; omega

end Path

structure Places where
  home      : Path
  directory : Path
  homes     : List (String × Path) := []

namespace Places

-- A home directory that is named by an empty text is the root.
def ofHome (home : String) (directory : Path) (homes : List (String × Path)) : Places where
  home := if home = "" then [] else directory.within home
  directory
  homes

def homeOf (p : Places) (user : List Char) : Except Misuse Path :=
  if user = [] then .ok p.home
  else if user.contains '\x00' then .error .badValue
  else (p.homes.lookup (String.ofList user)).elim (.error .noSuchUser) .ok

-- Where a path begins, and its steps from there. A tilde in front of the first step of a path that does not
-- begin at the root stands for a home directory.
def begin (p : Places) (s : String) : Except Misuse (Path × List String) :=
  match s.toList.head?, Path.stepsOf s with
  | some '/', steps => .ok ([], steps)
  | _, []           => .ok (p.directory, [])
  | _, step :: steps =>
    match step.toList with
    | '~' :: user => do return (← p.homeOf user, steps)
    | _           => .ok (p.directory, step :: steps)

def resolve (p : Places) (s : String) : Except Misuse Path := do
  let (start, steps) ← p.begin s
  unless steps.all Path.isNameable do throw .badValue
  return Path.follow start steps

end Places
end CatalogSearch
