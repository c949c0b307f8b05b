import Mathlib.Algebra.Order.Field.Power
import Mathlib.Algebra.Order.Ring.Rat
import Mathlib.Tactic.Linarith
import CatalogSearch.Proofs.Number.Integer

namespace CatalogSearch.Double

attribute [local instance (high)] instPowNat instNatPowNat

variable {num den rank k m : Nat} {q t : ℚ}

-- The binades, as ranges of multiples `m` of one power of two. The first one starts at zero, and the multiple
-- behind the last one of a binade is the first one of the next binade.
theorem size_binade (hl : k = 0 ∨ 2 ^ 52 ≤ m) (hm : m ≤ 2 ^ 53) :
    size (k * 2 ^ 52 + m) = m * 2 ^ ((k : Int) - 1074) := by
  rw [size, significand, exponent]
  by_cases hs : m < 2 ^ 52
  case pos =>
    obtain rfl : k = 0 := by omega
    simp [hs]
  case neg =>
    rw [if_neg (by simp only [significandBits]; omega), if_neg (by simp only [significandBits]; omega)]
    by_cases ht : m = 2 ^ 53
    case pos =>
      have hr : (k * 2 ^ 52 + m) % 2 ^ 52 = 0 := by omega
      have hq : (k * 2 ^ 52 + m) / 2 ^ 52 = k + 2 := by omega
      have he : ((k + 2 : Nat) : Int) - 1075 = (k - 1074) + 1 := by omega
      rw [significandBits, hr, hq, ht, he, zpow_add_one₀ two_ne_zero]
      push_cast
      ring
    case neg =>
      have hr : 2 ^ 52 + (k * 2 ^ 52 + m) % 2 ^ 52 = m := by omega
      have hq : (k * 2 ^ 52 + m) / 2 ^ 52 = k + 1 := by omega
      rw [significandBits, hr, hq]
      congr 2
      omega

theorem exists_binade (rank : Nat) :
    ∃ k m, (k = 0 ∨ 2 ^ 52 ≤ m) ∧ m < 2 ^ 53 ∧ k * 2 ^ 52 + m = rank := by
  by_cases h : rank < 2 ^ 52
  case pos => exact ⟨0, rank, by omega⟩
  case neg => exact ⟨rank / 2 ^ 52 - 1, rank % 2 ^ 52 + 2 ^ 52, by omega⟩

theorem size_strictMono : StrictMono size := by
  refine strictMono_nat_of_lt_succ fun rank => ?_
  have ⟨k, m, hl, hm, hr⟩ := exists_binade rank
  have hp : (0 : ℚ) < 2 ^ ((k : Int) - 1074) := zpow_pos two_pos _
  rw [← hr, Nat.add_assoc, size_binade hl hm.le, size_binade (by omega) hm, Nat.cast_add_one]
  linarith

section

variable {f : Nat → ℚ} {i j : Nat}

structure Nearest (f : Nat → ℚ) (q : ℚ) (i : Nat) : Prop where
  le (j : Nat)   : |q - f i| ≤ |q - f j|
  even (j : Nat) : |q - f i| = |q - f j| → j = i ∨ i % 2 = 0

theorem nearest_self (hf : StrictMono f) (i : Nat) : Nearest f (f i) i where
  le j   := by simp
  even j := by
    intro h
    rw [sub_self, abs_zero, eq_comm, abs_eq_zero, sub_eq_zero] at h
    exact .inl (hf.injective h).symm

theorem Nearest.half_le (h : Nearest f q i) (hj : f j < f i) : (f j + f i) / 2 ≤ q := by
  by_contra hq
  have hlt : |q - f j| < f i - q := abs_lt.mpr ⟨by linarith, by linarith⟩
  have hle := (neg_le_abs _).trans (h.le j)
  linarith

theorem Nearest.le_half (h : Nearest f q i) (hj : f i < f j) : q ≤ (f i + f j) / 2 := by
  by_contra hq
  have hlt : |q - f j| < q - f i := abs_lt.mpr ⟨by linarith, by linarith⟩
  have hle := (le_abs_self _).trans (h.le j)
  linarith

-- Between two even indices there is a third one, whose number is nearer than at least one of theirs.
theorem Nearest.not_lt (hf : StrictMono f) (hi : Nearest f q i) (hj : Nearest f q j) : ¬i < j := by
  intro hlt
  have he := (hi.le j).antisymm (hj.le i)
  have hie := (hi.even j he).resolve_left hlt.ne'
  have hje := (hj.even i he.symm).resolve_left hlt.ne
  have hlow := hi.le_half <| hf <| Nat.lt_succ_self i
  have hhigh := hj.half_le <| hf <| show i + 1 < j by omega
  have hends := hf hlt
  linarith

theorem Nearest.unique (hf : StrictMono f) (hi : Nearest f q i) (hj : Nearest f q j) : i = j :=
  Nat.le_antisymm (Nat.not_lt.mp <| hj.not_lt hf hi) (Nat.not_lt.mp <| hi.not_lt hf hj)

end

theorem div_eq_div_add_mod (hd : 0 < den) :
    (num / den : ℚ) = (num / den : Nat) + (num % den : Nat) / den := by
  have hz : (den : ℚ) ≠ 0 := Nat.cast_ne_zero.mpr hd.ne'
  have hn : (num : ℚ) = den * (num / den : Nat) + (num % den : Nat) := by
    exact_mod_cast (Nat.div_add_mod num den).symm
  rw [div_eq_iff hz, add_mul, div_mul_cancel₀ _ hz, mul_comm _ (den : ℚ), ← hn]

theorem nearest_of_abs_le (h : |t - m| ≤ 1 / 2) (he : |t - m| = 1 / 2 → m % 2 = 0) :
    Nearest Nat.cast t m := by
  have hf (j : Nat) (hj : j ≠ m) : 1 / 2 ≤ |t - j| := by
    have hd : (1 : ℚ) ≤ |(j : ℚ) - m| := by
      exact_mod_cast Int.one_le_abs (show (j : Int) - m ≠ 0 by omega)
    have ha : |(j : ℚ) - m| ≤ |t - j| + |t - m| := by
      rw [abs_sub_comm t]
      exact abs_sub_le _ _ _
    linarith
  constructor
  case le =>
    intro j
    by_cases hj : j = m
    case pos => rw [hj]
    case neg => exact h.trans (hf j hj)
  case even =>
    intro j heq
    refine or_iff_not_imp_left.mpr fun hj => he <| h.antisymm <| heq ▸ hf j hj

theorem roundRatio_nearest (hd : 0 < den) : Nearest Nat.cast (num / den) (roundRatio num den) := by
  have hz : (0 : ℚ) < den := Nat.cast_pos.mpr hd
  have hr := Nat.mod_lt num hd
  rw [div_eq_div_add_mod hd, roundRatio]
  generalize num / den = n
  generalize num % den = r at *
  -- The fraction, twice, is compared with one as twice the remainder is compared with the denominator.
  have htwice : (r / den : ℚ) * 2 = (2 * r : Nat) / den := by
    rw [Nat.cast_mul, mul_comm, mul_div_assoc]
    rfl
  have htie (h : (r / den : ℚ) = 1 / 2) : 2 * r = den := by
    rw [h, div_mul_cancel₀ _ two_ne_zero, eq_comm, div_eq_one_iff_eq hz.ne'] at htwice
    exact_mod_cast htwice
  split
  case isTrue h =>
    have hx : |(n : ℚ) + r / den - (n + 1 : Nat)| = 1 - r / den := by
      have hq := (div_lt_one hz).mpr <| Nat.cast_lt.mpr hr
      rw [Nat.cast_add_one, add_sub_add_left_eq_sub, abs_of_neg (sub_neg.mpr hq), neg_sub]
    have hl : (1 : ℚ) ≤ (2 * r : Nat) / den := (one_le_div hz).mpr <| Nat.cast_le.mpr (by omega)
    refine nearest_of_abs_le (by linarith) fun he => ?_
    have ht := htie (by linarith)
    omega
  case isFalse h =>
    have hx : |(n : ℚ) + r / den - n| = r / den := by
      rw [add_sub_cancel_left, abs_of_nonneg (by positivity)]
    have hl : ((2 * r : Nat) / den : ℚ) ≤ 1 := (div_le_one hz).mpr <| Nat.cast_le.mpr (by omega)
    refine nearest_of_abs_le (by linarith) fun he => ?_
    have ht := htie (hx.symm.trans he)
    omega

theorem log2_bounds {n : Nat} (h : n ≠ 0) :
    (2 : ℚ) ^ (n.log2 : Int) ≤ n ∧ (n : ℚ) < 2 ^ ((n.log2 : Int) + 1) := by
  have hl : ((2 ^ n.log2 : Nat) : ℚ) ≤ n := Nat.cast_le.mpr <| Nat.log2_self_le h
  have hu : (n : ℚ) < (2 ^ (n.log2 + 1) : Nat) := Nat.cast_lt.mpr Nat.lt_log2_self
  rw [cast_pow_eq] at hl hu
  exact ⟨hl, hu⟩

theorem binaryOrder_bounds (hn : num ≠ 0) (hd : den ≠ 0) :
    (2 : ℚ) ^ binaryOrder num den ≤ num / den ∧ (num / den : ℚ) < 2 ^ (binaryOrder num den + 1) := by
  have ⟨hnl, hnu⟩ := log2_bounds hn
  have ⟨hdl, hdu⟩ := log2_bounds hd
  have hz : (0 : ℚ) < den := Nat.cast_pos.mpr <| Nat.pos_of_ne_zero hd
  have hg : (2 : ℚ) ^ ((num.log2 : Int) - den.log2 - 1) ≤ num / den := by
    rw [le_div_iff₀ hz]
    calc (2 : ℚ) ^ ((num.log2 : Int) - den.log2 - 1) * den
      _ ≤ 2 ^ ((num.log2 : Int) - den.log2 - 1) * 2 ^ ((den.log2 : Int) + 1) := by gcongr
      _ = 2 ^ (num.log2 : Int) := by rw [← zpow_add₀ two_ne_zero]; congr 1; omega
      _ ≤ num := hnl
  have hu : (num / den : ℚ) < 2 ^ ((num.log2 : Int) - den.log2 + 1) := by
    rw [div_lt_iff₀ hz]
    calc (num : ℚ)
      _ < 2 ^ ((num.log2 : Int) + 1) := hnu
      _ = 2 ^ ((num.log2 : Int) - den.log2 + 1) * 2 ^ (den.log2 : Int) := by
        rw [← zpow_add₀ two_ne_zero]; congr 1; omega
      _ ≤ 2 ^ ((num.log2 : Int) - den.log2 + 1) * den := by gcongr
  simp only [binaryOrder]
  generalize (num.log2 : Int) - den.log2 = guess at hg hu ⊢
  have hc : den * 2 ^ guess.toNat ≤ num * 2 ^ (-guess).toNat ↔ (2 : ℚ) ^ guess ≤ num / den := by
    have hp : (0 : ℚ) < (2 ^ (-guess).toNat : Nat) := Nat.cast_pos.mpr <| Nat.two_pow_pos _
    rw [← two_pow_div, div_le_div_iff₀ hp hz, ← Nat.cast_mul, ← Nat.cast_mul, Nat.cast_le, Nat.mul_comm]
  split
  case isTrue h  => exact ⟨hc.mp h, hu⟩
  case isFalse h => exact ⟨hg, by simpa using mt hc.mpr h⟩

theorem scaled_ratio (num den : Nat) (z : Int) :
    ((num * 2 ^ (-z).toNat : Nat) : ℚ) / (den * 2 ^ z.toNat : Nat) = num / den / 2 ^ z := by
  rw [Nat.cast_mul, Nat.cast_mul, ← two_pow_div, div_div_div_eq, mul_comm]

theorem le_of_nearest (h : Nearest Nat.cast t m) (ht : (k : ℚ) ≤ t) : k ≤ m := by
  have hk := h.le k
  rw [abs_of_nonneg (sub_nonneg.mpr ht)] at hk
  have hm := (le_abs_self _).trans hk
  exact_mod_cast (sub_le_sub_iff_left t).mp hm

theorem ge_of_nearest (h : Nearest Nat.cast t m) (ht : t ≤ k) : m ≤ k := by
  have hk := h.le k
  rw [abs_of_nonpos (sub_nonpos.mpr ht)] at hk
  have hm := (neg_le_abs _).trans hk
  rw [neg_sub, neg_sub] at hm
  exact_mod_cast (sub_le_sub_iff_right t).mp hm

-- In the binade of a power of two and in all higher ones the magnitudes are multiples of this power. In all
-- lower binades they are less than `2 ^ 52` times this power.
theorem size_grid (k rank : Nat) :
    (∃ j : Nat, size rank = j * 2 ^ ((k : Int) - 1074)) ∨
      k ≠ 0 ∧ size rank < 2 ^ 52 * 2 ^ ((k : Int) - 1074) := by
  have ⟨l, m, hl, hm, hr⟩ := exists_binade rank
  rw [← hr, size_binade hl hm.le]
  rcases Nat.lt_or_ge l k with hlk | hlk
  case inl =>
    refine .inr ⟨by omega, ?_⟩
    have hm : (m : ℚ) < 2 ^ 53 := by exact_mod_cast hm
    calc (m : ℚ) * 2 ^ ((l : Int) - 1074)
      _ < 2 ^ 53 * 2 ^ ((l : Int) - 1074)     := by gcongr
      _ = 2 ^ 52 * 2 ^ ((l : Int) - 1074 + 1) := by rw [zpow_add_one₀ two_ne_zero]; ring
      _ ≤ 2 ^ 52 * 2 ^ ((k : Int) - 1074)     :=
        mul_le_mul_of_nonneg_left (zpow_le_zpow_right₀ one_le_two (by omega)) (by positivity)
  case inr =>
    refine .inl ⟨m * 2 ^ (l - k), ?_⟩
    have he : (l : Int) - 1074 = (l - k : Nat) + (k - 1074) := by omega
    rw [he, zpow_add₀ two_ne_zero, Nat.cast_mul, cast_pow_eq, mul_assoc]
    rfl

-- What is nearest on the grid of a binade is nearest of all, since the grids of higher binades are part of it
-- and all magnitudes of lower ones lie beyond its first point.
theorem nearest_size (h : Nearest Nat.cast t m) (hl : k = 0 ∨ 2 ^ 52 ≤ t) (hu : t < 2 ^ 53) :
    Nearest size (t * 2 ^ ((k : Int) - 1074)) (k * 2 ^ 52 + m) := by
  have hlm : k = 0 ∨ 2 ^ 52 ≤ m := hl.imp_right fun hl => le_of_nearest h <| by exact_mod_cast hl
  have hum : m ≤ 2 ^ 53 := ge_of_nearest h <| by exact_mod_cast hu.le
  have hg := size_grid k
  have hp : (0 : ℚ) < 2 ^ ((k : Int) - 1074) := zpow_pos two_pos _
  have hs := size_binade hlm hum
  generalize (2 : ℚ) ^ ((k : Int) - 1074) = p at *
  have hd (x : ℚ) : |t * p - x * p| = |t - x| * p := by rw [← sub_mul, abs_mul, abs_of_pos hp]
  have hlow (other : Nat) (hk : k ≠ 0) (ho : size other < 2 ^ 52 * p) :
      |t * p - m * p| < |t * p - size other| := by
    have ht : 2 ^ 52 ≤ t := hl.resolve_left hk
    calc |t * p - m * p|
      _ = |t - m| * p              := hd m
      _ ≤ |t - (2 ^ 52 : Nat)| * p := mul_le_mul_of_nonneg_right (h.le _) hp.le
      _ = t * p - 2 ^ 52 * p       := by
        rw [Nat.cast_pow, abs_of_nonneg (by simpa using ht), sub_mul]
        rfl
      _ < t * p - size other       := by gcongr
      _ ≤ |t * p - size other|     := le_abs_self _
  constructor
  case le =>
    intro other
    rw [hs]
    rcases hg other with ⟨j, hj⟩ | ⟨hk, ho⟩
    case inl =>
      rw [hj, hd, hd]
      exact mul_le_mul_of_nonneg_right (h.le j) hp.le
    case inr => exact (hlow other hk ho).le
  case even =>
    intro other he
    rw [hs] at he
    rcases hg other with ⟨j, hj⟩ | ⟨hk, ho⟩
    case inl =>
      rw [hj, hd, hd] at he
      rcases h.even j (mul_right_cancel₀ hp.ne' he) with rfl | hm
      case inl => exact .inl <| size_strictMono.injective <| hj.trans hs.symm
      case inr => omega
    case inr => exact absurd he (hlow other hk ho).ne

theorem nearestRank_nearest (hd : 0 < den) : Nearest size (num / den) (nearestRank num den) := by
  by_cases hn : num = 0
  case pos =>
    have hz : (num / den : ℚ) = size 0 := by simp [hn, size, significand]
    rw [hz, nearestRank, if_pos hn]
    exact nearest_self size_strictMono 0
  case neg =>
    obtain ⟨hl, hu⟩ := binaryOrder_bounds hn hd.ne'
    simp only [nearestRank, if_neg hn, significandBits]
    generalize hx : max (-1074) (binaryOrder num den - (52 : Nat) : Int) = x
    have hp : (0 : ℚ) < 2 ^ x := zpow_pos two_pos _
    have hlow : (x + 1074).toNat = 0 ∨ (2 : ℚ) ^ 52 ≤ num / den / 2 ^ x := by
      refine or_iff_not_imp_left.mpr fun hk => (le_div_iff₀ hp).mpr ?_
      rwa [← zpow_natCast, ← zpow_add₀ two_ne_zero, show (52 : Nat) + x = binaryOrder num den by omega]
    have hhigh : (num / den / 2 ^ x : ℚ) < 2 ^ 53 := by
      refine (div_lt_iff₀ hp).mpr <| hu.trans_le ?_
      rw [← zpow_natCast, ← zpow_add₀ two_ne_zero]
      exact zpow_le_zpow_right₀ one_le_two (by omega)
    have hr := @roundRatio_nearest (num * 2 ^ (-x).toNat) _ (Nat.mul_pos hd (Nat.two_pow_pos x.toNat))
    rw [scaled_ratio] at hr
    have hs := nearest_size hr hlow hhigh
    rwa [show ((x + 1074).toNat : Int) - 1074 = x by omega, div_mul_cancel₀ _ hp.ne'] at hs

theorem nearestRank_eq_iff (hd : 0 < den) : nearestRank num den = rank ↔ Nearest size (num / den) rank :=
  ⟨fun h => h ▸ nearestRank_nearest hd, (nearestRank_nearest hd).unique size_strictMono⟩

theorem size_nonneg (rank : Nat) : 0 ≤ size rank := by
  rw [size]
  positivity

theorem size_zero : size 0 = 0 := by
  simp [size, significand]

theorem size_lt_wholeBound (h : rank < finiteCount) : size rank < wholeBound := by
  have ⟨k, m, hl, hm, hr⟩ := exists_binade rank
  rw [finiteCount, significandBits] at h
  have hm' : (m : ℚ) * 2 < (2 ^ 54 - 1 : Nat) := by exact_mod_cast (show m * 2 < 2 ^ 54 - 1 by omega)
  have hp : (0 : ℚ) < 2 ^ (970 : Int) := zpow_pos two_pos _
  calc size rank
    _ = m * 2 ^ ((k : Int) - 1074)           := by rw [← hr, size_binade hl hm.le]
    _ ≤ m * 2 ^ (970 + 1 : Int)              :=
      mul_le_mul_of_nonneg_left (zpow_le_zpow_right₀ one_le_two (by omega)) (Nat.cast_nonneg m)
    _ = m * 2 * 2 ^ (970 : Int)              := by rw [zpow_add_one₀ two_ne_zero, mul_left_comm, mul_comm]
    _ < (2 ^ 54 - 1 : Nat) * 2 ^ (970 : Int) := mul_lt_mul_of_pos_right hm' hp
    _ = wholeBound                           := by rw [wholeBound, Nat.cast_mul, cast_pow_eq]; rfl

def EvenRank : Double → Prop
  | .finite _ rank => rank.val % 2 = 0
  | _              => False

-- How a number is read as a double, which is the number `v`: it is not beyond all doubles, none of them is
-- nearer to it, and of two that are equally near this is the even one.
structure RoundsTo (q : ℚ) (x : Double) (v : ℚ) : Prop where
  value                        : x.toRat? = some v
  reach                        : |q| < wholeBound
  le (h : toRat? y = some w)   : |q - v| ≤ |q - w|
  even (h : toRat? y = some w) : |q - v| = |q - w| → w = v ∨ x.EvenRank

theorem exists_toRat?_neg {y : Double} (h : y.toRat? = some w) : ∃ z : Double, z.toRat? = some (-w) := by
  cases y
  case infinite => cases h
  case nan      => cases h
  case finite negative rank =>
    refine ⟨.finite (!negative) rank, ?_⟩
    cases negative <;> cases h <;> simp [toRat?]

theorem Nearest.signed {y : Double} (h : Nearest size q rank) (hq : 0 ≤ q) (hy : y.toRat? = some w) :
    |q - size rank| ≤ |q - w| ∧ (|q - size rank| = |q - w| → w = size rank ∨ rank % 2 = 0) := by
  cases y
  case infinite => cases hy
  case nan      => cases hy
  case finite negative other =>
    cases negative
    case false =>
      obtain rfl : size other = w := Option.some.inj hy
      exact ⟨h.le other, fun he => (h.even other he).imp_left <| congrArg size⟩
    case true =>
      obtain rfl : -size other = w := Option.some.inj hy
      have ho := size_nonneg other
      have hz := h.le 0
      have hw : |q - -size other| = q + size other := by rw [sub_neg_eq_add, abs_of_nonneg (by linarith)]
      rw [size_zero, sub_zero, abs_of_nonneg hq] at hz
      refine ⟨by linarith, fun he => ?_⟩
      have h0 : size other = 0 := by linarith
      rw [h0, neg_zero, ← size_zero] at he ⊢
      exact (h.even 0 he).imp_left <| congrArg size

theorem Nearest.roundsTo {rank : Fin finiteCount} (h : Nearest size q rank) (hq : 0 ≤ q)
    (hr : q < wholeBound) : RoundsTo q (.finite false rank) (size rank) where
  value      := rfl
  reach      := (abs_of_nonneg hq).trans_lt hr
  le hy      := (h.signed hq hy).left
  even hy he := (h.signed hq hy).right he

theorem RoundsTo.neg {rank : Fin finiteCount} (h : RoundsTo q (.finite false rank) v) :
    RoundsTo (-q) (.finite true rank) (-v) := by
  have hs (w : ℚ) : |-q - w| = |q - -w| := by rw [← neg_add', abs_neg, sub_neg_eq_add]
  constructor
  case value =>
    have hv := h.value
    simpa [toRat?] using hv
  case reach => exact (abs_neg q).trans_lt h.reach
  case le =>
    intro y w hy
    obtain ⟨z, hz⟩ := exists_toRat?_neg hy
    rw [hs, hs, neg_neg]
    exact h.le hz
  case even =>
    intro y w hy he
    obtain ⟨z, hz⟩ := exists_toRat?_neg hy
    rw [hs, hs, neg_neg] at he
    exact (h.even hz he).imp_left neg_eq_iff_eq_neg.mp

theorem roundsTo_self {x : Double} (h : x.toRat? = some v) : RoundsTo v x v := by
  cases x
  case infinite => cases h
  case nan      => cases h
  case finite negative rank =>
    have hn := nearest_self size_strictMono rank.val
    have hr := hn.roundsTo (size_nonneg _) (size_lt_wholeBound rank.isLt)
    cases negative
    case false =>
      cases h
      exact hr
    case true =>
      cases h
      exact hr.neg

theorem abs_toRat? {rank : Fin finiteCount} (h : toRat? (.finite negative rank) = some v) :
    |v| = size rank := by
  cases negative <;> cases h <;> simp [abs_of_nonneg (size_nonneg _)]

end CatalogSearch.Double
