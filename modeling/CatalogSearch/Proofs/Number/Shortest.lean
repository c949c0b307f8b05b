import Mathlib.Tactic.NormNum
import CatalogSearch.Proofs.Number.Rounding

namespace CatalogSearch.Decimal

open Double

attribute [local instance (high)] instPowNat instNatPowNat

variable {d : Decimal} {rank : Nat}

def value (d : Decimal) : ℚ :=
  d.digits * 10 ^ d.exponent

theorem ratio_eq_value (d : Decimal) :
    ((d.digits * 10 ^ d.exponent.toNat : Nat) : ℚ) / (10 ^ (-d.exponent).toNat : Nat) = d.value := by
  rw [Nat.cast_mul, mul_div_assoc, pow_div_pow (by decide)]
  rfl

theorem readsAs_iff : d.readsAs rank ↔ Nearest size d.value rank := by
  rw [← ratio_eq_value, ← nearestRank_eq_iff (Nat.pow_pos (by decide)), readsAs, decide_eq_true_iff]

theorem value_exact (rank : Nat) : (exact rank).value = size rank := by
  simp only [value, exact, size, ← two_pow_div]
  generalize Double.exponent rank = e
  have he : min e 0 = -((-e).toNat : Int) := by omega
  have hten : ((10 ^ (-e).toNat : Nat) : ℚ) = (2 ^ (-e).toNat : Nat) * (5 ^ (-e).toNat : Nat) := by
    rw [← Nat.cast_mul, ← Nat.mul_pow]
  have hfive : ((5 ^ (-e).toNat : Nat) : ℚ) ≠ 0 := Nat.cast_ne_zero.mpr (Nat.pow_pos (by decide)).ne'
  calc ((significand rank * 2 ^ e.toNat * 5 ^ (-e).toNat : Nat) : ℚ) * 10 ^ min e 0
    _ = (significand rank * 2 ^ e.toNat * 5 ^ (-e).toNat : Nat) / (10 ^ (-e).toNat : Nat) := by
      rw [he, zpow_neg, ← div_eq_mul_inv, cast_pow_eq 10]
      rfl
    _ = significand rank * (2 ^ e.toNat : Nat) / (2 ^ (-e).toNat : Nat) := by
      rw [hten, Nat.cast_mul, mul_div_mul_right _ _ hfive, Nat.cast_mul]
    _ = significand rank * ((2 ^ e.toNat : Nat) / (2 ^ (-e).toNat : Nat)) := mul_div_assoc ..

theorem shortest_nearest (rank : Nat) : Nearest size (shortest rank).value rank := by
  simp only [shortest]
  generalize (List.range 17).flatMap _ = candidates
  cases hf : candidates.find? fun d => d.readsAs rank
  case some d =>
    have hr := List.find?_some hf
    exact readsAs_iff.mp hr
  case none =>
    rw [Option.getD_none, value_exact]
    exact nearest_self size_strictMono rank

theorem value_nonneg (d : Decimal) : 0 ≤ d.value := by
  rw [value]
  positivity

theorem shortest_digits_ne_zero (h : rank ≠ 0) : (shortest rank).digits ≠ 0 := by
  intro hd
  have hz : (shortest rank).value = 0 := by simp [value, hd]
  have hs : size 0 < size rank := size_strictMono (Nat.pos_of_ne_zero h)
  have hn := (shortest_nearest rank).half_le hs
  rw [size_zero] at hs hn
  linarith

def lead (d : Decimal) : Int :=
  (Nat.toDigits 10 d.digits).length - 1 + d.exponent

theorem pow_le_of_length_toDigits {n k : Nat} (h : n ≠ 0) (hk : (Nat.toDigits 10 n).length = k + 1) :
    10 ^ k ≤ n := by
  cases k
  case zero   => exact Nat.pos_of_ne_zero h
  case succ k =>
    have hl := Nat.length_toDigits_le_iff (b := 10) (n := n) (by decide) k.succ_pos
    omega

theorem value_bounds (h : d.digits ≠ 0) :
    (10 : ℚ) ^ d.lead ≤ d.value ∧ d.value < 10 ^ (d.lead + 1) := by
  have ⟨k, hk⟩ : ∃ k, (Nat.toDigits 10 d.digits).length = k + 1 :=
    Nat.exists_eq_add_one.mpr Nat.length_toDigits_pos
  have hlow : ((10 ^ k : Nat) : ℚ) ≤ d.digits := Nat.cast_le.mpr <| pow_le_of_length_toDigits h hk
  have hhigh : (d.digits : ℚ) < (10 ^ (k + 1) : Nat) :=
    Nat.cast_lt.mpr <| (Nat.length_toDigits_le_iff (by decide) k.succ_pos).mp hk.le
  have hl : d.lead = k + d.exponent := by rw [lead, hk]; omega
  have hn : d.lead + 1 = (k + 1 : Nat) + d.exponent := by omega
  have hp : (0 : ℚ) < 10 ^ d.exponent := by positivity
  rw [cast_pow_eq] at hlow hhigh
  rw [hn, hl, zpow_add₀ (by decide), zpow_add₀ (by decide), value]
  exact ⟨mul_le_mul_of_nonneg_right hlow hp.le, mul_lt_mul_of_pos_right hhigh hp⟩

theorem le_lead_iff (h : d.digits ≠ 0) (z : Int) : z ≤ d.lead ↔ (10 : ℚ) ^ z ≤ d.value := by
  have ⟨hlow, hhigh⟩ := value_bounds h
  have hten : (1 : ℚ) < 10 := by decide
  constructor
  case mp  => exact fun hz => (zpow_le_zpow_right₀ hten.le hz).trans hlow
  case mpr =>
    intro hz
    exact Int.lt_add_one_iff.mp <| (zpow_lt_zpow_iff_right₀ hten).mp <| hz.trans_lt hhigh

def tenThousandth : Nat :=
  4547007122018943789

def tenQuadrillion : Nat :=
  4846369599423283200

theorem shortest_tenThousandth : shortest tenThousandth = ⟨1, -4⟩ := by
  decide +kernel

theorem size_tenThousandth : 1 / 10000 < size tenThousandth ∧
    size (tenThousandth - 1) + size tenThousandth < 2 / 10000 := by
  norm_num [size, tenThousandth, significand, Double.exponent]

theorem size_tenQuadrillion : size tenQuadrillion = 10 ^ 16 := by
  norm_num [size, tenQuadrillion, significand, Double.exponent]

-- Rounding does not pass one ten-thousandth: the decimal of a double in front of it is less, too.
theorem least_plain_iff (h : rank ≠ 0) : -4 ≤ (shortest rank).lead ↔ 1 / 10000 ≤ size rank := by
  have hn := shortest_nearest rank
  have ⟨hs, hm⟩ := size_tenThousandth
  have hp : ((10 : ℚ) ^ (-4 : Int)) = 1 / 10000 := by norm_num
  rw [le_lead_iff (shortest_digits_ne_zero h), hp]
  rcases Nat.lt_trichotomy rank tenThousandth with hr | rfl | hr
  case inl =>
    have hle := size_strictMono.monotone (Nat.le_sub_one_of_lt hr)
    have hv := hn.le_half (size_strictMono hr)
    exact iff_of_false (by linarith) (by linarith)
  case inr.inl =>
    have hv : (shortest tenThousandth).value = 1 / 10000 := by
      rw [shortest_tenThousandth]
      norm_num [value]
    exact iff_of_true hv.ge hs.le
  case inr.inr =>
    have hlt := size_strictMono hr
    have hv := hn.half_le hlt
    exact iff_of_true (by linarith) (by linarith)

theorem tenQuadrillion_le (h : rank ≠ 0) (hl : 15 < (shortest rank).lead) : tenQuadrillion ≤ rank := by
  have hv := (le_lead_iff (shortest_digits_ne_zero h) 16).mp hl
  have hp : (10 : ℚ) ^ (16 : Int) = size tenQuadrillion := size_tenQuadrillion.symm
  by_contra hr
  have hlt := size_strictMono (Nat.lt_of_not_le hr)
  have hh := (shortest_nearest rank).le_half hlt
  linarith

end CatalogSearch.Decimal
