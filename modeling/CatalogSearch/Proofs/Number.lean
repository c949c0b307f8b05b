import Mathlib.Algebra.Order.Field.Basic
import Mathlib.Algebra.Field.Rat
import CatalogSearch.Number.Decimal
import CatalogSearch.Text.Digit

namespace CatalogSearch

attribute [local instance (high)] instPowNat instNatPowNat

theorem cast_pow_eq (b k : Nat) : ((b ^ k : Nat) : ℚ) = (b : ℚ) ^ (k : Int) := by
  rw [zpow_natCast]
  exact Nat.cast_pow b k

theorem pow_div_pow {b : Nat} (hb : b ≠ 0) (z : Int) :
    ((b ^ z.toNat : Nat) : ℚ) / (b ^ (-z).toNat : Nat) = (b : ℚ) ^ z := by
  rw [cast_pow_eq, cast_pow_eq, ← zpow_sub₀ (Nat.cast_ne_zero.mpr hb)]
  congr 1
  omega

theorem two_pow_div (z : Int) : ((2 ^ z.toNat : Nat) : ℚ) / (2 ^ (-z).toNat : Nat) = 2 ^ z :=
  pow_div_pow two_ne_zero z

namespace Double

def size (rank : Nat) : ℚ :=
  significand rank * 2 ^ exponent rank

def toRat? : Double → Option ℚ
  | .finite negative rank => some <| if negative then -size rank else size rank
  | _ => none

theorem magnitude_den_pos (rank : Nat) : 0 < (magnitude rank).2 :=
  Nat.pow_pos (by decide)

theorem magnitude_ratio (rank : Nat) :
    ((magnitude rank).1 : ℚ) / (magnitude rank).2 = size rank := by
  rw [size, magnitude, Nat.cast_mul, mul_div_assoc, two_pow_div]

theorem ratio_eq_int_iff {num den : Nat} (hd : 0 < den) {n : Int} :
    (num : ℚ) / den = n ↔ den ∣ num ∧ ((num / den : Nat) : Int) = n := by
  have hq : (den : ℚ) ≠ 0 := Nat.cast_ne_zero.mpr hd.ne'
  constructor
  case mp =>
    intro h
    have h : (num : Int) = n * den := by exact_mod_cast (div_eq_iff hq).mp h
    have hz : (den : Int) ≠ 0 := by omega
    refine ⟨Int.natCast_dvd_natCast.mp ⟨n, by rw [h, mul_comm]⟩, ?_⟩
    rw [Int.natCast_ediv, h, Int.mul_ediv_cancel _ hz]
  case mpr =>
    rintro ⟨⟨k, rfl⟩, rfl⟩
    rw [Nat.mul_div_cancel_left k hd, Nat.cast_mul, mul_div_cancel_left₀ _ hq]
    rfl

theorem toInt?_finite :
    (finite negative rank).toInt? = some n ↔ (magnitude rank).2 ∣ (magnitude rank).1 ∧
      signed negative ((magnitude rank).1 / (magnitude rank).2) = n := by
  simp [toInt?, Nat.dvd_iff_mod_eq_zero]

theorem toInt?_eq_some_iff {x : Double} : x.toInt? = some n ↔ x.toRat? = some (n : ℚ) := by
  cases x
  case infinite => simp [toInt?, toRat?]
  case nan      => simp [toInt?, toRat?]
  case finite negative rank =>
    have hr (m : Int) : size rank = m ↔ _ :=
      magnitude_ratio rank ▸ ratio_eq_int_iff (magnitude_den_pos rank)
    rw [toInt?_finite]
    cases negative
    case false => simp [toRat?, signed, hr]
    case true =>
      have hn : -size rank = n ↔ size rank = (-n : Int) := by
        rw [Int.cast_neg, neg_eq_iff_eq_neg]
      simp only [toRat?, signed, if_true, Option.some.injEq, hn, hr, neg_eq_iff_eq_neg]

end Double

theorem isDecimalDigit_of_isDigit {c : Char} (h : c.isDigit) : isDecimalDigit c := by
  have h : 48 ≤ c.toNat ∧ c.toNat ≤ 57 := by
    simpa [Char.isDigit, UInt32.le_iff_toNat_le] using h
  simp [isDecimalDigit, digitValue?, h, show c.toNat < 0x80 by omega]

theorem isDecimalDigit_of_mem_toDigits (h : c ∈ Nat.toDigits 10 n) : isDecimalDigit c :=
  isDecimalDigit_of_isDigit <| Nat.isDigit_of_mem_toDigits (by decide) (by decide) h

theorem intText_of_nonneg {n : Int} (h : 0 ≤ n) : (intText n).toList = Nat.toDigits 10 n.natAbs := by
  simp [intText, natText, Int.not_lt.mpr h]

theorem intText_of_neg {n : Int} (h : n < 0) :
    (intText n).toList = '-' :: Nat.toDigits 10 n.natAbs := by
  simp [intText, natText, h]

def NumberChar (c : Char) : Prop :=
  isDecimalDigit c ∨ c ∈ ['.', 'e', '+', '-']

instance : DecidablePred NumberChar := fun _ => inferInstanceAs (Decidable (_ ∨ _))

theorem lineFeed_not_mem {cs : List Char} (h : ∀ c ∈ cs, NumberChar c) : '\n' ∉ cs :=
  fun hm => absurd (h _ hm) (by decide)

theorem numberChar_of_mem_toDigits (h : c ∈ Nat.toDigits 10 n) : NumberChar c :=
  .inl <| isDecimalDigit_of_mem_toDigits h

theorem numberChars_intText (n : Int) : ∀ c ∈ (intText n).toList, NumberChar c := by
  by_cases h : n < 0
  case pos =>
    rw [intText_of_neg h, List.forall_mem_cons]
    exact ⟨by decide, fun _ => numberChar_of_mem_toDigits⟩
  case neg =>
    rw [intText_of_nonneg (Int.not_lt.mp h)]
    exact fun _ => numberChar_of_mem_toDigits

namespace Decimal

theorem mem_of_mem_stripZeros {ds : List Char} (h : c ∈ stripZeros ds) : c ∈ ds :=
  List.mem_reverse.mp <| (List.dropWhile_sublist _).mem <| List.mem_reverse.mp h

theorem numberChars_write (l : Layout) (d : Decimal) : ∀ c ∈ l.write d, NumberChar c := by
  have hs : ∀ c ∈ stripZeros (Nat.toDigits 10 d.digits), NumberChar c := fun _ hc =>
    numberChar_of_mem_toDigits <| mem_of_mem_stripZeros hc
  have hz (n : Nat) : ∀ c ∈ List.replicate n '0', NumberChar c := fun _ hc =>
    List.eq_of_mem_replicate hc ▸ by decide
  simp only [Layout.write]
  generalize stripZeros (Nat.toDigits 10 d.digits) = digits at hs
  split
  case isTrue =>
    split
    case isTrue =>
      simp only [List.cons_append, List.forall_mem_cons, List.forall_mem_append]
      exact ⟨by decide, by decide, hz _, hs⟩
    case isFalse =>
      simp only [List.forall_mem_cons, List.forall_mem_append]
      refine ⟨⟨fun c hc => hs c (List.mem_of_mem_take hc), hz _⟩, by decide, ?fraction⟩
      split
      case isTrue  => exact hz 1
      case isFalse => exact fun c hc => hs c (List.mem_of_mem_drop hc)
  case isFalse =>
    simp only [List.forall_mem_cons, List.forall_mem_append]
    refine ⟨⟨?mantissa, by decide, ?sign, hz _⟩, fun _ => numberChar_of_mem_toDigits⟩
    case sign => split <;> decide
    case mantissa =>
      split
      case h_1 =>
        rw [List.forall_mem_cons] at hs ⊢
        exact ⟨hs.left, List.forall_mem_cons.mpr ⟨by decide, hs.right⟩⟩
      case h_2 => exact hs

end Decimal

namespace Double

theorem numberChars_text (negative : Bool) (rank : Fin finiteCount) :
    ∀ c ∈ (text (.finite negative rank)).toList, NumberChar c := by
  have hd : ∀ c ∈ if rank.val = 0 then "0.0".toList else Decimal.layout.write (Decimal.shortest rank),
      NumberChar c := by
    split
    case isTrue =>
      have hz : NumberChar '0' := by decide
      have hp : NumberChar '.' := by decide
      simp [hz, hp]
    case isFalse => exact Decimal.numberChars_write _ _
  cases negative
  case false => simpa [text] using hd
  case true  => simpa [text] using ⟨show NumberChar '-' by decide, hd⟩

theorem lineFeed_not_mem_text (x : Double) : '\n' ∉ x.text.toList := by
  cases x
  case nan               => decide
  case infinite negative => cases negative <;> decide
  case finite            => exact lineFeed_not_mem <| numberChars_text _ _

end Double
end CatalogSearch
