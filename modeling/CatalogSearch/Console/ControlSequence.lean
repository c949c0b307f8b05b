namespace CatalogSearch

namespace ControlSequence

def isParameter (c : Char) : Bool := '0' ≤ c && c ≤ '?'
def isMark (c : Char) : Bool := ' ' ≤ c && c ≤ '/'
def isFinal (c : Char) : Bool := '@' ≤ c && c ≤ '~'

def rest? (cs : List Char) : Option (List Char) :=
  match (cs.dropWhile isParameter).dropWhile isMark with
  | c :: rest => if isFinal c then some rest else none
  | []        => none

theorem rest?_length (h : rest? cs = some rest) : rest.length < cs.length := by
  have h₁ : (cs.dropWhile isParameter).length ≤ cs.length := (List.dropWhile_sublist _).length_le
  have h₂ : ((cs.dropWhile isParameter).dropWhile isMark).length ≤ (cs.dropWhile isParameter).length :=
    (List.dropWhile_sublist _).length_le
  simp only [rest?] at h
  split at h
  case h_1 heq =>
    simp only [heq, List.length_cons] at h₂
    split at h
    case isTrue =>
      cases h
      omega
    case isFalse => cases h
  case h_2 => cases h

def dropAll : List Char → List Char
  | []                   => []
  | '\x1b' :: '[' :: cs  =>
    match _h : rest? cs with
    | some rest => dropAll rest
    | none      => '\x1b' :: '[' :: dropAll cs
  | c :: cs              => c :: dropAll cs
termination_by cs => cs.length
decreasing_by
  case _ => have := rest?_length _h; simp only [List.length_cons]; omega
  case _ => simp only [List.length_cons]; omega
  case _ => simp only [List.length_cons]; omega

end ControlSequence

def withoutControls (s : String) : String :=
  String.ofList <| ControlSequence.dropAll s.toList

end CatalogSearch
