import CatalogSearch.Proofs.Number.Shortest

namespace CatalogSearch

attribute [local instance (high)] instPowNat instNatPowNat

def AsciiDigits (cs : List Char) : Prop :=
  cs ≠ [] ∧ ∀ c ∈ cs, c.isDigit

inductive Fixed : List Char → ℚ → Prop
  | whole (hw : AsciiDigits ws) : Fixed ws (Nat.ofDigitChars 10 ws 0)
  | fraction (hw : AsciiDigits ws) (hf : AsciiDigits fs) :
      Fixed (ws ++ '.' :: fs) (Nat.ofDigitChars 10 (ws ++ fs) 0 / 10 ^ fs.length)

inductive StandsFor : List Char → ℚ → Prop
  | positive (h : Fixed cs q) : StandsFor cs q
  | negative (h : Fixed cs q) : StandsFor ('-' :: cs) (-q)

theorem asciiDigits_toDigits (n : Nat) : AsciiDigits (Nat.toDigits 10 n) :=
  ⟨Nat.toDigits_ne_nil, fun _ => Nat.isDigit_of_mem_toDigits (by decide) (by decide)⟩

theorem fixed_toDigits (n : Nat) : Fixed (Nat.toDigits 10 n) n := by
  simpa using Fixed.whole (asciiDigits_toDigits n)

theorem standsFor_intText (n : Int) : StandsFor (intText n).toList n := by
  by_cases h : n < 0
  case pos =>
    have hn : (n : ℚ) = -(n.natAbs : ℚ) := by
      rw [← Int.cast_natCast, ← Int.cast_neg]
      congr 1
      omega
    rw [intText_of_neg h, hn]
    exact .negative <| fixed_toDigits _
  case neg =>
    have hn : (n : ℚ) = n.natAbs := by
      rw [← Int.cast_natCast]
      congr 1
      omega
    rw [intText_of_nonneg (Int.not_lt.mp h), hn]
    exact .positive <| fixed_toDigits _

namespace Decimal

variable {d : Decimal} {l : Layout}

theorem stripZeros_append (ds : List Char) : ∃ z, stripZeros ds ++ List.replicate z '0' = ds := by
  have hz : ∀ c ∈ ds.reverse.takeWhile (· == '0'), c = '0' := fun c hc => by
    simpa using List.all_eq_true.mp List.all_takeWhile c hc
  refine ⟨(ds.reverse.takeWhile (· == '0')).length, ?_⟩
  rw [stripZeros, ← List.reverse_replicate, ← List.eq_replicate_of_mem hz, ← List.reverse_append,
    List.takeWhile_append_dropWhile, List.reverse_reverse]

theorem exists_stripped (h : d.digits ≠ 0) : ∃ power : Int,
    AsciiDigits (stripZeros (Nat.toDigits 10 d.digits)) ∧
      d.lead = (stripZeros (Nat.toDigits 10 d.digits)).length - 1 + power ∧
      d.value = Nat.ofDigitChars 10 (stripZeros (Nat.toDigits 10 d.digits)) 0 * 10 ^ power := by
  have ⟨z, hz⟩ := stripZeros_append (Nat.toDigits 10 d.digits)
  have hv := congrArg (Nat.ofDigitChars 10 · 0) hz
  rw [Nat.ofDigitChars_append, Nat.ofDigitChars_replicate_zero, Nat.ofDigitChars_ten_toDigits] at hv
  refine ⟨z + d.exponent, ⟨?nonempty, fun c hc => ?digit⟩, ?lead, ?value⟩
  case nonempty =>
    intro hs
    rw [hs, Nat.ofDigitChars_nil, Nat.mul_zero] at hv
    exact h hv.symm
  case digit => exact (asciiDigits_toDigits _).right c (mem_of_mem_stripZeros hc)
  case lead =>
    have hl := congrArg List.length hz
    rw [List.length_append, List.length_replicate] at hl
    rw [lead, ← hl]
    omega
  case value =>
    generalize Nat.ofDigitChars 10 (stripZeros (Nat.toDigits 10 d.digits)) 0 = n at hv ⊢
    rw [value, ← hv, zpow_add₀ (by decide), Nat.cast_mul, cast_pow_eq, mul_comm _ (n : ℚ), mul_assoc]
    rfl

theorem isDigit_of_mem_zeros (n : Nat) : ∀ c ∈ List.replicate n '0', c.isDigit :=
  fun _ hc => List.eq_of_mem_replicate hc ▸ rfl

theorem asciiDigits_zero : AsciiDigits ['0'] :=
  ⟨List.cons_ne_nil _ _, isDigit_of_mem_zeros 1⟩

theorem fixed_fraction {power : Int} (hw : AsciiDigits ws) (hf : AsciiDigits fs)
    (hp : power = -(fs.length : Int)) :
    Fixed (ws ++ '.' :: fs) (Nat.ofDigitChars 10 (ws ++ fs) 0 * 10 ^ power) := by
  rw [hp, zpow_neg, zpow_natCast, ← div_eq_mul_inv]
  exact .fraction hw hf

theorem fixed_padded {power : Int} (hs : AsciiDigits ds) {n : Nat} (hn : power = n) :
    Fixed (ds ++ List.replicate n '0' ++ '.' :: ['0']) (Nat.ofDigitChars 10 ds 0 * 10 ^ power) := by
  have hw : AsciiDigits (ds ++ List.replicate n '0') := by
    refine ⟨List.append_ne_nil_of_left_ne_nil hs.left _, ?_⟩
    exact List.forall_mem_append.mpr ⟨hs.right, isDigit_of_mem_zeros n⟩
  have hv : (Nat.ofDigitChars 10 (ds ++ List.replicate n '0' ++ ['0']) 0 : ℚ) / 10 ^ ['0'].length =
      Nat.ofDigitChars 10 ds 0 * 10 ^ power := by
    have hten : Nat.ofDigitChars 10 ['0'] (10 ^ n * Nat.ofDigitChars 10 ds 0) =
        10 * (10 ^ n * Nat.ofDigitChars 10 ds 0) := Nat.ofDigitChars_replicate_zero (n := 1)
    rw [Nat.ofDigitChars_append, Nat.ofDigitChars_append, Nat.ofDigitChars_replicate_zero, hten, Nat.cast_mul,
      Nat.cast_mul, cast_pow_eq, hn, mul_comm _ (Nat.ofDigitChars 10 ds 0 : ℚ), List.length_singleton,
      pow_one]
    exact mul_div_cancel_left₀ _ (by decide)
  exact hv ▸ .fraction hw asciiDigits_zero

-- With zeros in front of all digits, with zeros behind them, or with the point between them.
theorem fixed_write (h : d.digits ≠ 0) (hl : l.leastPlain ≤ d.lead) (hg : d.lead ≤ l.greatestPlain) :
    Fixed (l.write d) d.value := by
  have hplain := And.intro hl hg
  have ⟨power, hs, hlead, hv⟩ := exists_stripped h
  rw [lead] at hplain
  simp only [Layout.write, if_pos hplain]
  rw [← lead, hv]
  clear hv hplain
  generalize stripZeros (Nat.toDigits 10 d.digits) = digits at *
  generalize d.lead = lead at *
  split
  case isTrue hneg =>
    have hf : AsciiDigits (List.replicate (-lead - 1).toNat '0' ++ digits) := by
      refine ⟨List.append_ne_nil_of_right_ne_nil _ hs.left, ?_⟩
      exact List.forall_mem_append.mpr ⟨isDigit_of_mem_zeros _, hs.right⟩
    have hp : power = -((List.replicate (-lead - 1).toNat '0' ++ digits).length : Int) := by
      simp only [List.length_append, List.length_replicate]
      omega
    have hx := fixed_fraction asciiDigits_zero hf hp
    rw [Nat.ofDigitChars_append, Nat.ofDigitChars_append, Nat.ofDigitChars_replicate_zero] at hx
    exact hx
  case isFalse hpos =>
    by_cases hd : digits.length ≤ lead.toNat + 1
    case pos =>
      have hp : power = (lead.toNat + 1 - digits.length : Nat) := by omega
      simpa [List.take_of_length_le hd, List.drop_of_length_le hd] using fixed_padded hs hp
    case neg =>
      have hz : lead.toNat + 1 - digits.length = 0 := by omega
      have hn : digits.drop (lead.toNat + 1) ≠ [] := mt List.drop_eq_nil_iff.mp hd
      have hw : AsciiDigits (digits.take (lead.toNat + 1)) :=
        ⟨by simp [hs.left], fun c hc => hs.right c (List.mem_of_mem_take hc)⟩
      have hf : AsciiDigits (digits.drop (lead.toNat + 1)) :=
        ⟨hn, fun c hc => hs.right c (List.mem_of_mem_drop hc)⟩
      have hp : power = -((digits.drop (lead.toNat + 1)).length : Int) := by
        rw [List.length_drop]
        omega
      have hx := fixed_fraction hw hf hp
      rw [List.take_append_drop] at hx
      simpa [hz, List.isEmpty_iff, hn] using hx

theorem exponent_mem_write (h : ¬(l.leastPlain ≤ d.lead ∧ d.lead ≤ l.greatestPlain)) :
    'e' ∈ l.write d := by
  rw [lead] at h
  simp [Layout.write, h]

end Decimal

namespace Double

def Tiny (q : ℚ) : Prop :=
  q ≠ 0 ∧ |q| < 1 / 10000

variable {rank : Fin finiteCount}

theorem rank_ne_zero (h : toRat? (.finite negative rank) = some v) (hv : v ≠ 0) : rank.val ≠ 0 := by
  intro hr
  have ha := abs_toRat? h
  rw [hr, size_zero, abs_eq_zero] at ha
  exact hv ha

theorem ne_zero_of_toInt? {x : Double} (h : x.toRat? = some v) (hn : x.toInt? = none) : v ≠ 0 := by
  rintro rfl
  have hz := toInt?_eq_some_iff.mpr <| h.trans <| congrArg some Int.cast_zero.symm
  exact nomatch hn.symm.trans hz

theorem lead_le_of_toInt? (hn : toInt? (.finite negative rank) = none) (hr : rank.val ≠ 0) :
    (Decimal.shortest rank).lead ≤ 15 := by
  by_contra hl
  have hle := Decimal.tenQuadrillion_le hr <| Int.not_le.mp hl
  rw [Decimal.tenQuadrillion] at hle
  have he : (-exponent rank).toNat = 0 := by
    rw [exponent, significandBits, if_neg (by omega)]
    omega
  simp [toInt?, magnitude, he, Nat.mod_one] at hn

theorem toList_text (hr : rank.val ≠ 0) : (text (.finite negative rank)).toList =
    (if negative then ['-'] else []) ++ Decimal.layout.write (Decimal.shortest rank) := by
  cases negative <;> simp [text, hr]

theorem exponent_mem_text {x : Double} (h : x.toRat? = some v) (ht : Tiny v) : 'e' ∈ x.text.toList := by
  cases x
  case infinite => cases h
  case nan      => cases h
  case finite negative rank =>
    have ⟨hv, hlt⟩ := ht
    have hr := rank_ne_zero h hv
    rw [abs_toRat? h] at hlt
    have hl := mt (Decimal.least_plain_iff hr).mp hlt.not_ge
    rw [toList_text hr]
    exact List.mem_append_right _ <| Decimal.exponent_mem_write fun hp => hl hp.left

theorem standsFor_text {x : Double} (h : x.toRat? = some v) (hn : x.toInt? = none) (ht : ¬Tiny v) :
    ∃ q, StandsFor x.text.toList q ∧ RoundsTo q x v := by
  have hv := ne_zero_of_toInt? h hn
  cases x
  case infinite => cases h
  case nan      => cases h
  case finite negative rank =>
    have hr := rank_ne_zero h hv
    have hd := Decimal.shortest_digits_ne_zero hr
    have hge : 1 / 10000 ≤ size rank := by
      rw [← abs_toRat? h]
      exact not_lt.mp fun hlt => ht ⟨hv, hlt⟩
    have hlow := (Decimal.least_plain_iff hr).mpr hge
    have hhigh := lead_le_of_toInt? hn hr
    have hreach : (Decimal.shortest rank).value < wholeBound := by
      have hp : ((10 ^ 16 : Nat) : ℚ) < wholeBound := Nat.cast_lt.mpr <| lt_wholeBound (by decide)
      rw [cast_pow_eq] at hp
      exact (not_le.mp <| mt (Decimal.le_lead_iff hd 16).mpr (by omega)).trans hp
    have hw := Decimal.fixed_write (l := Decimal.layout) hd hlow hhigh
    have hrt := (Decimal.shortest_nearest rank).roundsTo (Decimal.value_nonneg _) hreach
    rw [toList_text hr]
    cases negative
    case false =>
      cases h
      exact ⟨_, .positive hw, hrt⟩
    case true =>
      cases h
      exact ⟨_, .negative hw, hrt.neg⟩

end Double
end CatalogSearch
