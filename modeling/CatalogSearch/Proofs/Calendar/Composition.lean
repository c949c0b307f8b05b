import CatalogSearch.Proofs.Calendar

namespace CatalogSearch

namespace Calendar

theorem le_daysIn (year : Int) (month : Nat) : 28 ≤ daysIn year month := by
  unfold daysIn
  split
  case isTrue  => split <;> decide
  case isFalse => split <;> decide

namespace Month

theorem before_before (m : Month) (a b : Int) : (m.before a).before b = m.before (a + b) := by
  rw [eq_iff_index, index_before, index_before, index_before]
  omega

end Month
end Calendar

namespace Date

open Calendar

variable {d between last direct : Date} {a b : Int}

theorem monthsBefore_zero (d : Date) : d.monthsBefore 0 = .ok d :=
  monthsBefore_eq_ok_iff.mpr ⟨rfl, (Nat.min_eq_left d.valid.day_le).symm⟩

-- Every month on the way has its say on the day.
theorem day_in_turn (ha : d.monthsBefore a = .ok between) (hb : between.monthsBefore b = .ok last) :
    last.day = min d.day (min (daysIn between.year between.month) (daysIn last.year last.month)) := by
  rw [(monthsBefore_eq_ok_iff.mp hb).right, (monthsBefore_eq_ok_iff.mp ha).right, Nat.min_assoc]

theorem inMonth_in_turn (ha : d.monthsBefore a = .ok between) (hb : between.monthsBefore b = .ok last) :
    last.inMonth = d.inMonth.before (a + b) := by
  rw [(monthsBefore_eq_ok_iff.mp hb).left, (monthsBefore_eq_ok_iff.mp ha).left, Month.before_before]

theorem exists_in_turn_iff (ha : d.monthsBefore a = .ok between) :
    (∃ last, between.monthsBefore b = .ok last) ↔ ∃ direct, d.monthsBefore (a + b) = .ok direct := by
  rw [exists_monthsBefore_iff_inCalendar, exists_monthsBefore_iff_inCalendar,
    (monthsBefore_eq_ok_iff.mp ha).left, Month.before_before]

section

variable (ha : d.monthsBefore a = .ok between) (hb : between.monthsBefore b = .ok last)
  (hd : d.monthsBefore (a + b) = .ok direct)

include ha hb hd

theorem inMonth_eq_direct : last.inMonth = direct.inMonth :=
  (inMonth_in_turn ha hb).trans (monthsBefore_eq_ok_iff.mp hd).left.symm

theorem le_direct : last ≤ direct := by
  refine (isGreatest_of_monthsBefore hd).right ⟨inMonth_eq_direct ha hb hd, ?_⟩
  rw [day_in_turn ha hb]
  exact Nat.min_le_left ..

theorem eq_direct_iff :
    last = direct ↔ min d.day (daysIn last.year last.month) ≤ daysIn between.year between.month := by
  have hm := inMonth_eq_direct ha hb hd
  have hy : last.year = direct.year := congrArg Month.year hm
  have hn : last.month = direct.month := congrArg Month.number hm
  have hl := day_in_turn ha hb
  have hr := (monthsBefore_eq_ok_iff.mp hd).right
  rw [← hy, ← hn] at hr
  rw [Date.ext_iff, and_iff_right hy, and_iff_right hn, hl, hr]
  omega

theorem eq_direct (h : d.day ≤ 28) : last = direct :=
  (eq_direct_iff ha hb hd).mpr <|
    (Nat.min_le_left ..).trans <| h.trans <| le_daysIn between.year between.month

end

theorem le_self (ha : d.monthsBefore a = .ok between) (hb : between.monthsBefore (-a) = .ok last) : last ≤ d :=
  le_direct ha hb <| (Int.add_right_neg a).symm ▸ d.monthsBefore_zero

-- Two steps lead to the month that one step over all the months leads to, if the calendar has it. Their day is
-- cut to the lengths of both months on the way, so it is the day of the one step or an earlier one, and the
-- same if no month can be too short for it. Back and forth again one does not get beyond where one was.
theorem monthsBefore_in_turn (ha : d.monthsBefore a = .ok between) :
    ((∃ last, between.monthsBefore b = .ok last) ↔ ∃ direct, d.monthsBefore (a + b) = .ok direct) ∧
    ∀ last direct, between.monthsBefore b = .ok last → d.monthsBefore (a + b) = .ok direct →
      last.inMonth = direct.inMonth ∧
      (∃ n m, between.inMonth.Length n ∧ last.inMonth.Length m ∧ last.day = min d.day (min n m)) ∧
      last ≤ direct ∧ (d.day ≤ 28 → last = direct) ∧ (b = -a → last ≤ d) := by
  refine ⟨exists_in_turn_iff ha, fun last direct hb hd => ?_⟩
  refine ⟨inMonth_eq_direct ha hb hd, ?day, le_direct ha hb hd, eq_direct ha hb hd, ?back⟩
  case day  => exact ⟨_, _, between.inMonth.length_daysIn, last.inMonth.length_daysIn, day_in_turn ha hb⟩
  case back =>
    rintro rfl
    exact le_self ha hb

theorem monthsBefore_in_turn_over_february :
    let today : Date := ⟨2024, 3, 31, by decide⟩
    ∃ between last, today.monthsBefore 1 = .ok between ∧ between.monthsBefore (-1) = .ok last ∧
      last.inMonth = today.inMonth ∧ last.day = 29 ∧ last ≤ today := by
  intro today
  have ha : today.monthsBefore 1 = .ok ⟨2024, 2, 29, by decide⟩ := monthsBefore_eq_ok_iff.mpr ⟨rfl, by decide⟩
  have hd : today.monthsBefore (1 + -1) = .ok today := today.monthsBefore_zero
  obtain ⟨he, h⟩ := monthsBefore_in_turn (b := -1) ha
  obtain ⟨last, hb⟩ := he.mpr ⟨today, hd⟩
  obtain ⟨hm, -, -, -, hl⟩ := h last today hb hd
  refine ⟨_, last, ha, hb, hm, ?_, hl rfl⟩
  rw [day_in_turn ha hb, show last.year = 2024 from congrArg Month.year hm,
    show last.month = 3 from congrArg Month.number hm]
  rfl

end Date
end CatalogSearch
