import CatalogSearch.Proofs.Facet.Token
import CatalogSearch.Proofs.Number.Writing

namespace CatalogSearch.FacetRange

inductive NumericBound : Value → Prop
  | none                                  : NumericBound .null
  | double (h : Double.toRat? x = some v) : NumericBound (.double x)

inductive TinyBound : Value → Prop
  | double (h : Double.toRat? x = some v) (ht : Double.Tiny v) : TinyBound (.double x)

-- A bound and what is read for it: an open bound for an open one, and for a double a text that stands for the
-- same number. For an integer this is just the number, and for a fraction one that is read as the same double.
inductive SameBound : Value → Value → Prop
  | opened : SameBound .null .null
  | number (ht : StandsFor text.toList q) (hr : Double.RoundsTo q x v)
      (hi : x.toInt?.isSome → q = v) : SameBound (.double x) (.str text)

def ReadsBack (r : FacetRange) : Prop :=
  ∃ read, Decoded.ofToken r.token = .range read ∧
    SameBound r.lower read.lower ∧ SameBound r.upper read.upper

theorem Digits.exponent_not_mem (h : Digits cs) : 'e' ∉ cs :=
  fun hm => absurd (h.right _ hm) (by decide)

theorem Numeral.exponent_not_mem (h : Numeral cs) : 'e' ∉ cs := by
  cases h
  case whole h        => exact h.exponent_not_mem
  case fraction hw hf => simp [hw.exponent_not_mem, hf.exponent_not_mem]

theorem BoundText.exponent_not_mem (h : BoundText cs b) : 'e' ∉ cs := by
  cases h
  case opened     => decide
  case positive h => exact h.exponent_not_mem
  case negative h => simp [h.exponent_not_mem]

theorem NamedBy.exponent_not_mem {r : FacetRange} (h : NamedBy r text) : 'e' ∉ text.toList := by
  obtain ⟨lower, upper, _, hl, hu, rfl | rfl, ht⟩ := h
  case inl => simp [ht, hl.exponent_not_mem, hu.exponent_not_mem]
  case inr => simp [ht, hl.exponent_not_mem, hu.exponent_not_mem]

theorem digits_of_asciiDigits (h : AsciiDigits cs) : Digits cs :=
  ⟨h.left, fun c hc => isDecimalDigit_of_isDigit <| h.right c hc⟩

theorem numeral_of_fixed (h : Fixed cs q) : Numeral cs := by
  cases h
  case whole hw       => exact .whole <| digits_of_asciiDigits hw
  case fraction hw hf => exact .fraction (digits_of_asciiDigits hw) (digits_of_asciiDigits hf)

theorem boundText_of_standsFor {text : String} (h : StandsFor text.toList q) :
    BoundText text.toList (.str text) := by
  rw [← String.ofList_toList (s := text), String.toList_ofList]
  generalize text.toList = cs at h
  cases h
  case positive h => exact .positive <| numeral_of_fixed h
  case negative h => exact .negative <| numeral_of_fixed h

theorem toInt?_of_tiny {x : Double} (h : x.toRat? = some v) (ht : Double.Tiny v) : x.toInt? = none := by
  refine Option.eq_none_iff_forall_ne_some.mpr fun n hn => ?_
  have hv : v = n := Option.some.inj <| h.symm.trans <| Double.toInt?_eq_some_iff.mp hn
  obtain ⟨hz, hlt⟩ := hv ▸ ht
  have hone : (1 : ℚ) ≤ |(n : ℚ)| := by exact_mod_cast Int.one_le_abs (Int.cast_ne_zero.mp hz)
  linarith

theorem exponent_mem_boundText (h : TinyBound b) : 'e' ∈ (boundText b).toList := by
  cases h
  case double h ht => simpa [boundText, toInt?_of_tiny h ht] using Double.exponent_mem_text h ht

-- What is not tiny is written as a number that is read as the same double.
theorem exists_sameBound (h : NumericBound b) (ht : ¬TinyBound b) :
    ∃ read, BoundText (boundText b).toList read ∧ SameBound b read := by
  cases h
  case none => exact ⟨.null, .opened, .opened⟩
  case double x v h =>
    cases hn : x.toInt?
    case none =>
      have ⟨q, hs, hr⟩ := Double.standsFor_text h hn fun hv => ht (.double h hv)
      have hb : boundText (.double x) = x.text := by simp [boundText, hn]
      rw [hb]
      exact ⟨.str x.text, boundText_of_standsFor hs, .number hs hr (by simp [hn])⟩
    case some n =>
      have hv : v = n := Option.some.inj <| h.symm.trans <| Double.toInt?_eq_some_iff.mp hn
      have hb : boundText (.double x) = intText n := by simp [boundText, hn]
      have hs := standsFor_intText n
      have hr : Double.RoundsTo n x v := hv ▸ Double.roundsTo_self h
      rw [hb]
      exact ⟨.str (intText n), boundText_of_standsFor hs, .number hs hr fun _ => hv.symm⟩

theorem readsBack_of_not_tiny {r : FacetRange} (hl : NumericBound r.lower) (hu : NumericBound r.upper)
    (hlt : ¬TinyBound r.lower) (hut : ¬TinyBound r.upper) : r.ReadsBack := by
  have ⟨lower, hlb, hlr⟩ := exists_sameBound hl hlt
  have ⟨upper, hub, hur⟩ := exists_sameBound hu hut
  refine ⟨⟨lower, upper⟩, Decoded.ofToken_of_named ⟨_, _, [], hlb, hub, .inl rfl, ?_⟩, hlr, hur⟩
  simp [token]

theorem plain_of_tiny {r : FacetRange} (h : TinyBound r.lower ∨ TinyBound r.upper) :
    Decoded.ofToken r.token = .plain r.token := by
  refine Decoded.ofToken_of_unnamed fun named hn => NamedBy.exponent_not_mem hn ?_
  rw [token, String.toList_append, String.toList_append, List.mem_append, List.mem_append]
  rcases h with hl | hu
  case inl => exact .inl <| .inl <| exponent_mem_boundText hl
  case inr => exact .inr <| exponent_mem_boundText hu

-- A range of numbers is read back from its token unless it has a bound that is written with an exponent. Then
-- the token is a plain value.
theorem readsBack_iff {r : FacetRange} (hl : NumericBound r.lower) (hu : NumericBound r.upper) :
    (r.ReadsBack ↔ ¬TinyBound r.lower ∧ ¬TinyBound r.upper) ∧
      (TinyBound r.lower ∨ TinyBound r.upper → Decoded.ofToken r.token = .plain r.token) := by
  refine ⟨⟨fun h => not_or.mp fun ht => ?tiny, fun ⟨hlt, hut⟩ => ?plain⟩, plain_of_tiny⟩
  case tiny =>
    have ⟨read, hr, _⟩ := h
    rw [plain_of_tiny ht] at hr
    cases hr
  case plain => exact readsBack_of_not_tiny hl hu hlt hut

theorem readsBack_from_quarter :
    let minusQuarter : Double := .finite true ⟨4598175219545276416, by decide⟩
    let tiny : Double := .finite false ⟨4532020583610935537, by decide⟩
    ReadsBack ⟨.double minusQuarter, .null⟩ ∧
      Decoded.ofToken (token ⟨.double minusQuarter, .double tiny⟩) = .plain "-0.25-1e-05" := by
  intro minusQuarter tiny
  have hq : ¬TinyBound (.double minusQuarter) := by
    rintro ⟨h, _, hlt⟩
    rw [Double.abs_toRat? h] at hlt
    norm_num [Double.size, Double.significand, Double.exponent] at hlt
  have ht : TinyBound (.double tiny) := by
    refine .double rfl ⟨?_, ?_⟩
    case refine_1 => norm_num [Double.size, Double.significand, Double.exponent]
    case refine_2 => norm_num [Double.size, Double.significand, Double.exponent]
  have hw : token ⟨.double minusQuarter, .double tiny⟩ = "-0.25-1e-05" := by decide +kernel
  obtain ⟨hi, _⟩ := readsBack_iff (r := ⟨.double minusQuarter, .null⟩) (.double rfl) .none
  obtain ⟨_, hp⟩ := readsBack_iff (r := ⟨.double minusQuarter, .double tiny⟩) (.double rfl) (.double rfl)
  have hn : ¬TinyBound .null := by rintro ⟨⟩
  exact ⟨hi.mpr ⟨hq, hn⟩, hw ▸ hp (.inr ht)⟩

theorem not_readsBack_from_tiny :
    ¬∀ r : FacetRange, NumericBound r.lower → NumericBound r.upper → r.ReadsBack := by
  intro h
  let tiny : Double := .finite false ⟨4532020583610935537, by decide⟩
  have ⟨read, hr, _⟩ := h ⟨.double tiny, .null⟩ (.double rfl) .none
  have hp : Decoded.ofToken (token ⟨.double tiny, .null⟩) = .plain "1e-05-*" := by decide +kernel
  rw [hp] at hr
  cases hr

end CatalogSearch.FacetRange
