import Mathlib.Data.Prod.Lex
import Mathlib.Logic.Function.Iterate
import Mathlib.Order.Bounds.Defs
import CatalogSearch.Calendar

namespace CatalogSearch

namespace Calendar

-- A month of any year, also of one that the calendar does not have.
@[ext]
structure Month where
  year      : Int
  number    : Nat
  one_le    : 1 ≤ number
  le_twelve : number ≤ 12

namespace Month

def previous (m : Month) : Month :=
  if h : m.number = 1 then ⟨m.year - 1, 12, by decide, by decide⟩
  else ⟨m.year, m.number - 1, by have := m.one_le; omega, by have := m.le_twelve; omega⟩

def next (m : Month) : Month :=
  if h : m.number = 12 then ⟨m.year + 1, 1, by decide, by decide⟩
  else ⟨m.year, m.number + 1, by omega, by have := m.le_twelve; omega⟩

def before (m : Month) : Int → Month
  | .ofNat n   => previous^[n] m
  | .negSucc n => next^[n + 1] m

def InCalendar (m : Month) : Prop :=
  1 ≤ m.year ∧ m.year ≤ 9999

def InLeapYear (m : Month) : Prop :=
  4 ∣ m.year ∧ (100 ∣ m.year → 400 ∣ m.year)

inductive Length (m : Month) : Nat → Prop
  | long  (h : m.number ∈ [1, 3, 5, 7, 8, 10, 12]) : m.Length 31
  | short (h : m.number ∈ [4, 6, 9, 11]) : m.Length 30
  | leap  (h : m.number = 2) (hl : m.InLeapYear) : m.Length 29
  | usual (h : m.number = 2) (hl : ¬m.InLeapYear) : m.Length 28

def index (m : Month) : Int :=
  m.year * 12 + m.number

variable {m m' : Month}

theorem index_previous : m.previous.index = m.index - 1 := by
  have := m.one_le
  unfold previous
  split <;> simp only [index] <;> omega

theorem index_next : m.next.index = m.index + 1 := by
  unfold next
  split <;> simp only [index] <;> omega

theorem index_previous_iterate (n : Nat) : (previous^[n] m).index = m.index - n := by
  induction n
  case zero => simp
  case succ n hi =>
    rw [Function.iterate_succ_apply', index_previous, hi]
    omega

theorem index_next_iterate (n : Nat) : (next^[n] m).index = m.index + n := by
  induction n
  case zero => simp
  case succ n hi =>
    rw [Function.iterate_succ_apply', index_next, hi]
    omega

theorem index_before (m : Month) (months : Int) : (m.before months).index = m.index - months := by
  cases months
  case ofNat n   => exact index_previous_iterate n
  case negSucc n => rw [before, index_next_iterate, Int.negSucc_eq]; omega

theorem eq_iff_index : m = m' ↔ m.index = m'.index := by
  constructor
  case mp  => exact congrArg index
  case mpr =>
    intro h
    have ⟨_, _, _, _⟩ := m
    have ⟨_, _, _, _⟩ := m'
    simp only [index] at h
    ext <;> simp only <;> omega

theorem isLeap_iff : isLeap m.year ↔ m.InLeapYear := by
  simp only [isLeap, InLeapYear, decide_eq_true_eq]
  omega

theorem length_daysIn (m : Month) : m.Length (daysIn m.year m.number) := by
  have := m.one_le
  have := m.le_twelve
  unfold daysIn
  split
  case isTrue h =>
    split
    case isTrue hl  => exact .leap h (isLeap_iff.mp hl)
    case isFalse hl => exact .usual h (hl ∘ isLeap_iff.mpr)
  case isFalse h =>
    split
    case isTrue hs  => exact .short (by simp only [List.mem_cons, List.not_mem_nil]; omega)
    case isFalse hs => exact .long (by simp only [List.mem_cons, List.not_mem_nil]; omega)

end Month

theorem one_le_daysIn (year : Int) (month : Nat) : 1 ≤ daysIn year month := by
  unfold daysIn
  split
  case isTrue  => split <;> decide
  case isFalse => split <;> decide

theorem daysIn_le (year : Int) (month : Nat) : daysIn year month ≤ 31 := by
  unfold daysIn
  split
  case isTrue  => split <;> decide
  case isFalse => split <;> decide

end Calendar

namespace Date

open Calendar

instance : LinearOrder Date :=
  .lift' (fun d => toLex (d.year, toLex (d.month, d.day))) fun a b h => by
    have h := Prod.mk.inj (toLex.injective h)
    have h' := Prod.mk.inj (toLex.injective h.right)
    exact Date.ext h.left h'.left h'.right

def inMonth (d : Date) : Month where
  year      := d.year
  number    := d.month
  one_le    := d.valid.month_pos
  le_twelve := d.valid.month_le

variable {a b d d' day today : Date} {year : Int} {month : Nat}

theorem lt_iff :
    a < b ↔ a.year < b.year ∨ a.year = b.year ∧ (a.month < b.month ∨ a.month = b.month ∧ a.day < b.day) := by
  refine Prod.Lex.toLex_lt_toLex.trans ?_
  simp only [Prod.Lex.toLex_lt_toLex]

theorem le_iff :
    a ≤ b ↔ a.year < b.year ∨ a.year = b.year ∧ (a.month < b.month ∨ a.month = b.month ∧ a.day ≤ b.day) := by
  refine Prod.Lex.toLex_le_toLex.trans ?_
  simp only [Prod.Lex.toLex_le_toLex]

theorem lt_iff_index : a < b ↔ a.inMonth.index < b.inMonth.index ∨ a.inMonth = b.inMonth ∧ a.day < b.day := by
  have ⟨_, _, _, _, _, _⟩ := a.valid
  have ⟨_, _, _, _, _, _⟩ := b.valid
  simp only [lt_iff, Month.eq_iff_index, inMonth, Month.index]
  omega

theorem le_iff_index : a ≤ b ↔ a.inMonth.index < b.inMonth.index ∨ a.inMonth = b.inMonth ∧ a.day ≤ b.day := by
  have ⟨_, _, _, _, _, _⟩ := a.valid
  have ⟨_, _, _, _, _, _⟩ := b.valid
  simp only [le_iff, Month.eq_iff_index, inMonth, Month.index]
  omega

theorem of_eq_ok_iff : Date.of year month n = .ok d ↔ d.year = year ∧ d.month = month ∧ d.day = n := by
  by_cases h : Valid year month n
  case pos => simp [Date.of, h, Date.ext_iff, eq_comm]
  case neg =>
    have hd : ¬(d.year = year ∧ d.month = month ∧ d.day = n) := by
      rintro ⟨rfl, rfl, rfl⟩
      exact h d.valid
    rw [Date.of, dif_neg h, iff_false_right hd]
    split <;> nofun

theorem exists_of_iff : (∃ d, Date.of year month n = .ok d) ↔ Valid year month n := by
  by_cases h : Valid year month n
  case pos => simp [Date.of, h]
  case neg =>
    rw [Date.of, dif_neg h]
    split <;> simp [h]

-- A month has the day of today or an earlier one to stand for it.
theorem valid_in_month_iff (hp : 1 ≤ month) (hl : month ≤ 12) (hd : 1 ≤ n) :
    Valid year month (min n (daysIn year month)) ↔ 1 ≤ year ∧ year ≤ 9999 := by
  constructor
  case mp  => exact fun h => ⟨h.year_pos, h.year_le⟩
  case mpr =>
    intro ⟨hy, hy'⟩
    exact {
      year_pos  := hy
      year_le   := hy'
      month_pos := hp
      month_le  := hl
      day_pos   := Nat.le_min.mpr ⟨hd, one_le_daysIn year month⟩
      day_le    := Nat.min_le_right .. }

-- Counting months by their places comes to the same as going from one to the next.
theorem monthsBefore_eq (d : Date) (months : Int) :
    let m := d.inMonth.before months
    d.monthsBefore months = of m.year m.number (min d.day (daysIn m.year m.number)) := by
  intro m
  have hi : m.index = d.inMonth.index - months := d.inMonth.index_before months
  simp only [Month.index, inMonth] at hi
  have := m.one_le
  have := m.le_twelve
  have hy : (d.monthIndex - months) / 12 = m.year := by rw [monthIndex]; omega
  have hm : ((d.monthIndex - months) % 12).toNat + 1 = m.number := by rw [monthIndex]; omega
  simp only [monthsBefore, hy, hm]

theorem monthsBefore_eq_ok_iff : d.monthsBefore months = .ok day ↔
    day.inMonth = d.inMonth.before months ∧ day.day = min d.day (daysIn day.year day.month) := by
  rw [monthsBefore_eq, of_eq_ok_iff, Month.ext_iff]
  constructor
  case mp =>
    rintro ⟨hy, hm, hd⟩
    exact ⟨⟨hy, hm⟩, by rw [hd, hy, hm]⟩
  case mpr =>
    rintro ⟨⟨hy, hm⟩, hd⟩
    exact ⟨hy, hm, by rw [hd, ← hy, ← hm]; rfl⟩

theorem exists_monthsBefore_iff_inCalendar :
    (∃ day, d.monthsBefore months = .ok day) ↔ (d.inMonth.before months).InCalendar := by
  rw [monthsBefore_eq, exists_of_iff]
  exact valid_in_month_iff (Month.one_le _) (Month.le_twelve _) d.valid.day_pos

def ReachesBack (today : Date) (months : Int) : Prop :=
  ∃ day : Date, day.year * 12 + day.month + months = today.year * 12 + today.month

theorem reachesBack_iff_inMonth :
    today.ReachesBack months ↔ ∃ day : Date, day.inMonth = today.inMonth.before months := by
  refine exists_congr fun day => ?_
  rw [Month.eq_iff_index, Month.index_before]
  simp only [Month.index, inMonth]
  omega

theorem exists_monthsBefore_iff : (∃ d, today.monthsBefore months = .ok d) ↔ today.ReachesBack months := by
  rw [reachesBack_iff_inMonth]
  constructor
  case mp  => exact fun ⟨day, h⟩ => ⟨day, (monthsBefore_eq_ok_iff.mp h).left⟩
  case mpr =>
    intro ⟨day, hm⟩
    exact exists_monthsBefore_iff_inCalendar.mpr <| hm ▸ ⟨day.valid.year_pos, day.valid.year_le⟩

theorem isGreatest_of_monthsBefore (h : d.monthsBefore months = .ok day) :
    IsGreatest {other : Date | other.inMonth = day.inMonth ∧ other.day ≤ d.day} day := by
  have ⟨_, hd⟩ := monthsBefore_eq_ok_iff.mp h
  refine ⟨⟨rfl, hd ▸ Nat.min_le_left ..⟩, fun other ⟨hm, hl⟩ => ?_⟩
  have hy : other.year = day.year := congrArg Month.year hm
  have hn : other.month = day.month := congrArg Month.number hm
  have hv : other.day ≤ daysIn day.year day.month := hy ▸ hn ▸ other.valid.day_le
  exact le_iff_index.mpr <| .inr ⟨hm, hd ▸ Nat.le_min.mpr ⟨hl, hv⟩⟩

theorem lt_of_monthsBefore (ha : d.monthsBefore n = .ok a) (hb : d.monthsBefore m = .ok b) (h : m < n) :
    a < b := by
  rw [lt_iff_index, (monthsBefore_eq_ok_iff.mp ha).left, (monthsBefore_eq_ok_iff.mp hb).left,
    Month.index_before, Month.index_before]
  omega

theorem le_of_monthsBefore (ha : d.monthsBefore n = .ok a) (hb : d'.monthsBefore n = .ok b) (h : d ≤ d') :
    a ≤ b := by
  have ⟨hm, hd⟩ := monthsBefore_eq_ok_iff.mp ha
  have ⟨hm', hd'⟩ := monthsBefore_eq_ok_iff.mp hb
  rw [le_iff_index, hm, hm', Month.index_before, Month.index_before]
  cases le_iff_index.mp h
  case inl hi => exact .inl <| Int.sub_lt_sub_right hi n
  case inr hi =>
    have hl : a.inMonth = b.inMonth := by rw [hm, hm', hi.left]
    have hy : a.year = b.year := congrArg Month.year hl
    have hn : a.month = b.month := congrArg Month.number hl
    have := hi.right
    refine .inr ⟨hi.left ▸ rfl, ?_⟩
    rw [hd, hd', hy, hn]
    omega

-- The date some months earlier has the same day, or the last one of its month if the month is too short.
-- It is the latest one of the month that is not later in the month, and there is one if and only if the
-- calendar has the month.
theorem monthsBefore_exact (d : Date) (months : Int) :
    let m := d.inMonth.before months
    (m.InCalendar → ∃ day length, d.monthsBefore months = .ok day ∧ day.inMonth = m ∧ m.Length length ∧
      day.day = min d.day length ∧ IsGreatest {other : Date | other.inMonth = m ∧ other.day ≤ d.day} day) ∧
    (¬m.InCalendar → ∃ e, d.monthsBefore months = .error e) := by
  intro m
  constructor
  case left =>
    intro hm
    obtain ⟨day, h⟩ := exists_monthsBefore_iff_inCalendar.mpr hm
    have ⟨hi, hd⟩ := monthsBefore_eq_ok_iff.mp h
    have hg := isGreatest_of_monthsBefore h
    have hl := day.inMonth.length_daysIn
    rw [hi] at hg hl
    exact ⟨day, _, h, hi, hl, by rw [hd, ← hi]; rfl, hg⟩
  case right =>
    intro hm
    cases h : d.monthsBefore months
    case ok day  => exact absurd (exists_monthsBefore_iff_inCalendar.mp ⟨day, h⟩) hm
    case error e => exact ⟨e, rfl⟩

theorem monthsBefore_end_of_march :
    let today : Date := ⟨2024, 3, 31, by decide⟩
    (∃ day, today.monthsBefore 1 = .ok day ∧ day.year = 2024 ∧ day.month = 2 ∧ day.day = 29) ∧
      ∃ e, today.monthsBefore 24288 = .error e := by
  intro today
  constructor
  case left =>
    obtain ⟨day, length, h, hm, hl, hd, -⟩ := (monthsBefore_exact today 1).left ⟨by decide, by decide⟩
    have hl : length = 29 := by
      cases hl
      case leap     => rfl
      case usual hl => exact absurd ⟨by decide, by decide⟩ hl
      case long h   => exact absurd h (by decide)
      case short h  => exact absurd h (by decide)
    exact ⟨day, h, congrArg Month.year hm, congrArg Month.number hm, by rw [hd, hl]; rfl⟩
  case right =>
    refine (monthsBefore_exact today 24288).right fun ⟨hy, _⟩ => ?_
    have hi := today.inMonth.index_before 24288
    simp only [Month.index, inMonth, today] at hi hy
    omega

end Date
end CatalogSearch
