import CatalogSearch.Console.EmojiTable
import CatalogSearch.Text.Lowercase
import CatalogSearch.Text.Split

namespace CatalogSearch.Emoji

def shownBy? (name : String) (entry : String) : Option (List Char) :=
  match entry.toList.span (· ≠ '=') with
  | (known, _ :: shown) => if String.ofList known = name then some shown else none
  | _                   => none

def ofName? (name : String) : Option (List Char) :=
  (wordsOf tableText).findSome? (shownBy? name)

def splitForm (code : List Char) : List Char × List Char :=
  if ['-', 'e', 'm', 'o', 'j', 'i'].isSuffixOf code then (code.take (code.length - 6), ['\ufe0f'])
  else if ['-', 't', 'e', 'x', 't'].isSuffixOf code then (code.take (code.length - 5), ['\ufe0e'])
  else (code, [])

def ofCode (code : List Char) : List Char :=
  let (name, form) := splitForm code
  match ofName? (lowercase (String.ofList name)) with
  | some shown => shown ++ form
  | none       => ':' :: code ++ [':']

def readCode? (cs : List Char) : Option (List Char × List Char) :=
  match cs.dropWhile fun c => c ≠ ':' && !isBlank c with
  | ':' :: rest => some (cs.takeWhile fun c => c ≠ ':' && !isBlank c, rest)
  | _           => none

theorem readCode?_length (h : readCode? cs = some (code, rest)) : rest.length < cs.length := by
  have hd : (cs.dropWhile fun c => c ≠ ':' && !isBlank c).length ≤ cs.length :=
    (List.dropWhile_sublist _).length_le
  simp only [readCode?] at h
  split at h
  case h_1 heq =>
    cases h
    simp only [heq, List.length_cons] at hd
    omega
  case h_2 => cases h

def spell : List Char → List Char
  | []      => []
  | c :: cs =>
    match _h : if c = ':' then readCode? cs else none with
    | some (code, rest) => ofCode code ++ spell rest
    | none              => c :: spell cs
termination_by cs => cs.length
decreasing_by
  case _ =>
    split at _h
    · have := readCode?_length _h
      simp only [List.length_cons]
      omega
    · cases _h
  case _ => simp

end CatalogSearch.Emoji
