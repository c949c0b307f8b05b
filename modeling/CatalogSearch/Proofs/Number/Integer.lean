import Mathlib.Algebra.Order.Ring.Rat
import Mathlib.Tactic.Ring
import CatalogSearch.Proofs.Number

namespace CatalogSearch.Double

attribute [local instance (high)] instPowNat instNatPowNat

variable {num den m e : Nat}

-- The integer from which on all are rounded to infinity: the middle between the greatest finite double and
-- the power of two above it.
def wholeBound : Nat :=
  (2 ^ 54 - 1) * 2 ^ 970

theorem roundRatio_lt_iff (hd : 0 < den) (hm : m % 2 = 0) :
    roundRatio num den < m ↔ 2 * num < (2 * m - 1) * den := by
  have hn := Nat.div_add_mod num den
  have hr := Nat.mod_lt num hd
  simp only [roundRatio]
  generalize num / den = q at *
  generalize num % den = r at *
  rcases Nat.lt_or_ge q m with hq | hq
  case inl =>
    obtain ⟨k, rfl⟩ := Nat.exists_eq_add_of_lt hq
    have hx : (2 * (q + k + 1) - 1) * den = 2 * (den * q) + den + 2 * (k * den) := by
      rw [show 2 * (q + k + 1) - 1 = 2 * q + 1 + 2 * k by omega]
      ring
    rw [hx]
    cases k
    case zero => split <;> omega
    case succ k =>
      have hk : (k + 1) * den = k * den + den := Nat.succ_mul k den
      split <;> omega
  case inr =>
    obtain ⟨k, rfl⟩ := Nat.exists_eq_add_of_le hq
    have hx : (2 * m - 1) * den ≤ 2 * (den * (m + k)) := by
      rw [← Nat.mul_assoc, Nat.mul_comm 2 den, Nat.mul_assoc, Nat.mul_comm _ den]
      exact Nat.mul_le_mul_left den (by omega)
    split <;> omega

theorem roundRatio_le (num den : Nat) : roundRatio num den ≤ num / den + 1 := by
  simp only [roundRatio]
  split <;> omega

theorem binaryOrder_one (h : num ≠ 0) : binaryOrder num 1 = num.log2 := by
  have h1 : Nat.log2 1 = 0 := by decide
  have hl := Nat.log2_self_le h
  simp [binaryOrder, h1, hl]

theorem nearestRank_of_log2_lt (h : num ≠ 0) (hk : num.log2 < 52) : nearestRank num 1 < finiteCount := by
  obtain ⟨j, hj⟩ := Nat.exists_eq_add_of_lt hk
  have hx : max (-1074) ((num.log2 : Int) - significandBits) = -((j + 1 : Nat) : Int) := by
    simp only [significandBits]
    omega
  have hn : num * 2 ^ (j + 1) < 2 ^ 53 := by
    have hl := Nat.mul_lt_mul_of_pos_right (Nat.lt_log2_self (n := num)) (Nat.two_pow_pos (j + 1))
    rwa [← Nat.pow_add, show num.log2 + 1 + (j + 1) = 53 by omega] at hl
  have hr : roundRatio (num * 2 ^ (j + 1)) (1 * 2 ^ 0) < 2 ^ 53 :=
    (roundRatio_lt_iff (by decide) (by decide)).mpr (by omega)
  have h1 : (-(-((j + 1 : Nat) : Int))).toNat = j + 1 := by omega
  have h2 : (-((j + 1 : Nat) : Int)).toNat = 0 := by omega
  have h3 : (-((j + 1 : Nat) : Int) + 1074).toNat ≤ 1074 := by omega
  simp only [nearestRank, h, if_false, binaryOrder_one h, hx, h1, h2]
  simp only [finiteCount, significandBits]
  omega

theorem nearestRank_of_log2_eq (h : num ≠ 0) (hk : num.log2 = e + 52) :
    nearestRank num 1 = (e + 1074) * 2 ^ significandBits + roundRatio num (2 ^ e) := by
  have hx : max (-1074) ((e + 52 : Nat) - significandBits : Int) = e := by simp only [significandBits]; omega
  have h1 : (-(e : Int)).toNat = 0 := by omega
  have h2 : ((e : Int) + 1074).toNat = e + 1074 := by omega
  simp only [nearestRank, h, if_false, binaryOrder_one h, hk, hx, h1, h2]
  simp

theorem roundRatio_in_binade (h : num ≠ 0) (hk : num.log2 = e + 52) :
    2 ^ 52 ≤ roundRatio num (2 ^ e) ∧ roundRatio num (2 ^ e) ≤ 2 ^ 53 := by
  have hz := Nat.two_pow_pos e
  have hl := Nat.log2_self_le h
  have hu := Nat.lt_log2_self (n := num)
  rw [hk, Nat.pow_add] at hl
  rw [hk, Nat.add_assoc, Nat.pow_add] at hu
  have hlow := mt (@roundRatio_lt_iff num (2 ^ e) (2 ^ 52) hz (by decide)).mp (by omega)
  have hq : num / 2 ^ e < 2 ^ 53 := (Nat.div_lt_iff_lt_mul hz).mpr (by omega)
  have hhigh := roundRatio_le num (2 ^ e)
  omega

-- In the last binade, a number overflows from the middle between the greatest double and the next power of
-- two. Below this binade none does, and above it all do. The exponent is a variable, as powers of this size
-- are not to be computed.
theorem nearestRank_lt_iff {t : Nat} (ht : t = 970) :
    nearestRank num 1 < finiteCount ↔ num < (2 ^ 54 - 1) * 2 ^ t := by
  have hp : 2 ^ 52 ≤ 2 ^ t := Nat.pow_le_pow_right (by decide) (by omega)
  by_cases h : num = 0
  case pos =>
    simp only [h, nearestRank, if_true, finiteCount, significandBits]
    omega
  case neg =>
    have hl := Nat.log2_self_le h
    have hu := Nat.lt_log2_self (n := num)
    by_cases hk : num.log2 < 52
    case pos =>
      refine iff_of_true (nearestRank_of_log2_lt h hk) ?_
      have hm : 2 ^ (num.log2 + 1) ≤ 2 ^ 52 := Nat.pow_le_pow_right (by decide) hk
      omega
    case neg =>
      obtain ⟨e, he⟩ := Nat.exists_eq_add_of_le' (Nat.not_lt.mp hk)
      have ⟨hlow, hhigh⟩ := roundRatio_in_binade h he
      have hlast := @roundRatio_lt_iff num (2 ^ e) (2 ^ 53) (Nat.two_pow_pos e) (by decide)
      rw [he, Nat.pow_add] at hl
      rw [he, Nat.add_assoc, Nat.pow_add] at hu
      rw [nearestRank_of_log2_eq h he, finiteCount, significandBits]
      rcases Nat.lt_trichotomy e (t + 1) with hlt | rfl | hgt
      case inl =>
        have hm : 2 ^ e ≤ 2 ^ t := Nat.pow_le_pow_right (by decide) (by omega)
        omega
      case inr.inl =>
        have hs : 2 ^ (t + 1) = 2 ^ t * 2 := Nat.pow_succ 2 t
        rw [hs] at hlast hlow hhigh ⊢
        omega
      case inr.inr =>
        have hm : 2 ^ (t + 2) ≤ 2 ^ e := Nat.pow_le_pow_right (by decide) hgt
        rw [Nat.pow_add] at hm
        omega

theorem lt_wholeBound (h : n < 2 ^ 54 - 1) : n < wholeBound := by
  rw [wholeBound]
  generalize 970 = t
  exact Nat.lt_of_lt_of_le h <| Nat.le_mul_of_pos_right _ <| Nat.two_pow_pos t

theorem exists_ofInt?_iff {n : Int} : (∃ x, ofInt? n = some x) ↔ n.natAbs < wholeBound := by
  rw [wholeBound, ← nearestRank_lt_iff rfl, ofInt?, ofRatio]
  by_cases h : nearestRank n.natAbs 1 < finiteCount
  case pos => simp [h]
  case neg => simp [h]

theorem ofRatio_ne_nan (negative : Bool) (num den : Nat) : ofRatio negative num den ≠ .nan := by
  rw [ofRatio]
  split <;> nofun

theorem ofDecimal_ne_nan (negative : Bool) (digits : Nat) (exponent : Int) :
    ofDecimal negative digits exponent ≠ .nan := by
  rw [ofDecimal]
  split
  case isTrue => nofun
  case isFalse =>
    split
    case isTrue  => nofun
    case isFalse => exact ofRatio_ne_nan _ _ _

theorem ne_nan_of_ofInt? {n : Int} (h : ofInt? n = some x) : x ≠ .nan := by
  rw [ofInt?] at h
  split at h
  case h_1 => cases h
  case h_2 => exact Option.some.inj h ▸ ofRatio_ne_nan _ _ _

inductive Positive : Double → Prop
  | number (h : toRat? x = some q) (hq : 0 < q) : Positive x
  | infinite                                    : Positive (.infinite false)

section

variable {x : Double}

theorem compareInt?_of_toRat? (h : x.toRat? = some q) (n : Int) : x.compareInt? n = some (compare q n) := by
  cases x
  case infinite => cases h
  case nan      => cases h
  case finite negative rank =>
    have hd : (0 : ℚ) < (magnitude rank).2 := Nat.cast_pos.mpr <| magnitude_den_pos rank
    have hq : (signed negative (magnitude rank).1 : ℚ) = q * (magnitude rank).2 := by
      have hs := (div_eq_iff hd.ne').mp (magnitude_ratio rank)
      cases negative <;> cases h <;> simp [signed, hs]
    rw [compareInt?, compareRatio?, Option.some.injEq, ← cmp_eq_compare, ← cmp_eq_compare]
    calc cmp (signed negative (magnitude rank).1 * 1) (n * (magnitude rank).2 : Int)
      _ = cmp ((signed negative (magnitude rank).1 * 1 : Int) : ℚ) (n * (magnitude rank).2 : Int) :=
        (Int.cast_strictMono.cmp_map_eq _ _).symm
      _ = cmp (q * (magnitude rank).2) (n * (magnitude rank).2) := by
        rw [mul_one, hq, Int.cast_mul, Int.cast_natCast]
      _ = cmp q n := cmp_mul_pos_right hd q n

theorem compareInt?_eq_none_iff : x.compareInt? n = none ↔ x = .nan := by
  cases x <;> simp [compareInt?, compareRatio?]

theorem not_positive_nan : ¬Positive .nan := by
  rintro ⟨⟩
  case number h => cases h

theorem positive_iff_of_toRat? (h : x.toRat? = some q) : x.Positive ↔ 0 < q := by
  constructor
  case mpr => exact .number h
  case mp =>
    rintro ⟨⟩
    case number hq hr => exact Option.some.inj (hr.symm.trans h) ▸ hq
    case infinite     => cases h

theorem positive_iff : x.Positive ↔ x.compareInt? 0 = some .gt := by
  cases x
  case nan => exact iff_of_false not_positive_nan nofun
  case infinite negative =>
    cases negative
    case false => exact iff_of_true .infinite rfl
    case true =>
      refine iff_of_false ?_ nofun
      rintro ⟨⟩
      case number h => cases h
  case finite negative rank =>
    have hq : toRat? (.finite negative rank) = some _ := rfl
    rw [positive_iff_of_toRat? hq, compareInt?_of_toRat? hq, Int.cast_zero, Option.some.injEq,
      compare_gt_iff_gt]

end

end CatalogSearch.Double
