import CatalogSearch.Error
import CatalogSearch.Text.Digit

namespace CatalogSearch

namespace Calendar

def isLeap (year : Int) : Bool :=
  year % 4 = 0 ∧ (year % 100 ≠ 0 ∨ year % 400 = 0)

def daysIn (year : Int) (month : Nat) : Nat :=
  if month = 2 then (if isLeap year then 29 else 28)
  else if month = 4 ∨ month = 6 ∨ month = 9 ∨ month = 11 then 30
  else 31

structure Valid (year : Int) (month day : Nat) : Prop where
  year_pos  : 1 ≤ year
  year_le   : year ≤ 9999
  month_pos : 1 ≤ month
  month_le  : month ≤ 12
  day_pos   : 1 ≤ day
  day_le    : day ≤ daysIn year month

instance : Decidable (Valid year month day) :=
  decidable_of_iff (1 ≤ year ∧ year ≤ 9999 ∧ 1 ≤ month ∧ month ≤ 12 ∧ 1 ≤ day ∧ day ≤ daysIn year month)
    ⟨fun ⟨a, b, c, d, e, f⟩ => ⟨a, b, c, d, e, f⟩, fun ⟨a, b, c, d, e, f⟩ => ⟨a, b, c, d, e, f⟩⟩

end Calendar

@[ext]
structure Date where
  year  : Int
  month : Nat
  day   : Nat
  valid : Calendar.Valid year month day
  deriving DecidableEq

namespace Date

open Calendar

-- A year far outside of the calendar is too large for a date at all.
def of (year : Int) (month day : Nat) : Except Misuse Date :=
  if h : Valid year month day then .ok ⟨year, month, day, h⟩
  else if year < -2147483648 ∨ 2147483647 < year then .error .tooLarge
  else .error .badValue

def monthIndex (d : Date) : Int :=
  d.year * 12 + (d.month - 1)

def monthsBefore (d : Date) (months : Int) : Except Misuse Date :=
  let index := d.monthIndex - months
  let year := index / 12
  let month := (index % 12).toNat + 1
  of year month (min d.day (daysIn year month))

def padded (width n : Nat) : List Char :=
  let digits := Nat.toDigits 10 n
  List.replicate (width - digits.length) '0' ++ digits

def text (d : Date) : String :=
  String.ofList <| padded 4 d.year.toNat ++ '-' :: padded 2 d.month ++ '-' :: padded 2 d.day

def ofText (s : String) : Except Misuse Date :=
  match s.toList with
  | y₁ :: y₂ :: y₃ :: y₄ :: '-' :: m₁ :: m₂ :: '-' :: d₁ :: d₂ :: _ =>
    if [y₁, y₂, y₃, y₄, m₁, m₂, d₁, d₂].all isAsciiDigit then
      of (digitsValue [y₁, y₂, y₃, y₄]) (digitsValue [m₁, m₂]) (digitsValue [d₁, d₂])
    else .error .badValue
  | _ => .error .badValue

end Date
end CatalogSearch
