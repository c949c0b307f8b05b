import CatalogSearch.Console.Output
import Mathlib.Data.List.Basic

namespace CatalogSearch

namespace Console

def styles : List String :=
  ["info", "warning", "error", "success"]

def Unmarked (text : String) : Prop :=
  '[' ∉ text.toList ∧ '\\' ∉ text.toList

instance : Decidable (Unmarked text) :=
  inferInstanceAs <| Decidable (_ ∧ _)

variable [Console]

def Shows (markup : String) : Prop :=
  ∃ text, read markup = .ok text

def ShowsTitle (markup : String) : Prop :=
  ∃ text, title markup = .ok text

end Console

-- What the program relies on when it shows something.
class LawfulConsole [Console] : Prop where
  plain   (h : '[' ∉ text.toList) : Console.Shows text
  title   (h : '[' ∉ text.toList) : Console.ShowsTitle text
  escaped (text : String) : Console.Shows (Console.escape text)
  behind  (hf : Console.Unmarked front) (h : Console.Shows text) : Console.Shows (front ++ text)
  styled  (hs : style ∈ Console.styles) (ht : '[' ∉ text.toList) : Console.Shows (Console.styled style text)
  follows (hs : style ∈ Console.styles) (hl : Console.Unmarked label) (h : Console.Shows text) :
    Console.Shows (Console.styled style label ++ text)

namespace Console

variable [Console] [LawfulConsole]

theorem shows_labelled (hs : style ∈ styles) (hl : Unmarked label) (ht : Shows text) :
    Shows (labelled style label text) := by
  rw [labelled, String.append_assoc]
  exact LawfulConsole.follows hs hl <| LawfulConsole.behind (by decide) ht

end Console
end CatalogSearch
