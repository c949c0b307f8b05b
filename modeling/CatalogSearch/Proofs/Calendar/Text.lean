import Mathlib.Data.String.Basic
import CatalogSearch.Proofs.Calendar

namespace CatalogSearch
namespace Date

variable {width n m : Nat} {xs ys xs' ys' : List Char}

theorem append_lt_append_iff (h : xs.length = ys.length) :
    xs ++ xs' < ys ++ ys' ↔ xs < ys ∨ xs = ys ∧ xs' < ys' := by
  induction xs generalizing ys
  case nil =>
    cases ys
    case nil  => simp
    case cons => cases h
  case cons x xs hi =>
    cases ys
    case nil => cases h
    case cons y ys =>
      simp only [List.cons_append, List.cons_lt_cons_iff, hi (Nat.succ.inj h), List.cons.injEq]
      tauto

theorem digitChar_lt_iff (hn : n < 10) (hm : m < 10) : n.digitChar < m.digitChar ↔ n < m := by
  change n.digitChar.toNat < m.digitChar.toNat ↔ n < m
  rw [Nat.toNat_digitChar_of_lt_ten hn, Nat.toNat_digitChar_of_lt_ten hm]
  omega

theorem length_padded (h : n < 10 ^ (width + 1)) : (padded (width + 1) n).length = width + 1 := by
  have := (Nat.length_toDigits_le_iff (b := 10) (by decide) (Nat.succ_pos width)).mpr h
  simp only [padded, List.length_append, List.length_replicate]
  omega

theorem padded_one (h : n < 10) : padded 1 n = [n.digitChar] := by
  simp [padded, Nat.toDigits_of_lt_base h]

theorem padded_succ (width n : Nat) :
    padded (width + 2) n = padded (width + 1) (n / 10) ++ [(n % 10).digitChar] := by
  by_cases h : n < 10
  case pos =>
    rw [Nat.div_eq_of_lt h, Nat.mod_eq_of_lt h, padded, padded, Nat.toDigits_of_lt_base h, Nat.toDigits_zero]
    exact congrArg (· ++ [n.digitChar]) List.replicate_succ'
  case neg => simp [padded, Nat.toDigits_of_base_le (by decide) (Nat.not_lt.mp h)]

theorem strictMonoOn_padded (width : Nat) : StrictMonoOn (padded (width + 1)) (Set.Iio (10 ^ (width + 1))) := by
  induction width
  case zero =>
    intro n (hn : n < 10) m (hm : m < 10) h
    rw [padded_one hn, padded_one hm, List.cons_lt_cons_iff, digitChar_lt_iff hn hm]
    exact .inl h
  case succ width hi =>
    intro n (hn : n < _) m (hm : m < _) h
    have hn' : n / 10 < 10 ^ (width + 1) := Nat.div_lt_of_lt_mul (by rwa [← Nat.pow_succ'])
    have hm' : m / 10 < 10 ^ (width + 1) := Nat.div_lt_of_lt_mul (by rwa [← Nat.pow_succ'])
    have hd := digitChar_lt_iff (n.mod_lt (y := 10) (by decide)) (m.mod_lt (y := 10) (by decide))
    have hl := (length_padded hn').trans (length_padded hm').symm
    rw [padded_succ, padded_succ, append_lt_append_iff hl, hi.lt_iff_lt hn' hm', hi.eq_iff_eq hn' hm',
      List.cons_lt_cons_iff, hd]
    omega

theorem padded_append_lt_iff (hn : n < 10 ^ (width + 1)) (hm : m < 10 ^ (width + 1)) :
    padded (width + 1) n ++ xs < padded (width + 1) m ++ ys ↔ n < m ∨ n = m ∧ xs < ys := by
  have hp := strictMonoOn_padded width
  rw [append_lt_append_iff ((length_padded hn).trans (length_padded hm).symm), hp.lt_iff_lt hn hm,
    hp.eq_iff_eq hn hm]

theorem year_lt (d : Date) : d.year.toNat < 10 ^ (3 + 1) := by
  have := d.valid.year_le
  omega

theorem month_lt (d : Date) : d.month < 10 ^ (1 + 1) := by
  have := d.valid.month_le
  omega

theorem day_lt (d : Date) : d.day < 10 ^ (1 + 1) := by
  have := d.valid.day_le.trans (Calendar.daysIn_le d.year d.month)
  omega

theorem strictMono_text_append (s : String) : StrictMono fun d : Date => d.text ++ s := by
  intro a b h
  have := a.valid.year_pos
  have := b.valid.year_pos
  have := lt_iff.mp h
  simp only [String.lt_iff_toList_lt, text, String.toList_append, String.toList_ofList, List.append_assoc,
    List.cons_append, List.cons_lt_cons_self, padded_append_lt_iff a.year_lt b.year_lt,
    padded_append_lt_iff a.month_lt b.month_lt, padded_append_lt_iff a.day_lt b.day_lt]
  omega

end Date
end CatalogSearch
