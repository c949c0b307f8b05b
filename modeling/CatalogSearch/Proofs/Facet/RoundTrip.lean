import CatalogSearch.Proofs.Facet.Token
import CatalogSearch.Value.Access

namespace CatalogSearch

namespace FacetRange

def WrittenAs (r : FacetRange) (text : String) : Prop :=
  ∃ lower upper, BoundText lower r.lower ∧ BoundText upper r.upper ∧ text.toList = lower ++ '-' :: upper

def IsLine (text : String) : Prop :=
  ∃ (r : FacetRange) (written : String), r.WrittenAs written ∧ text = written ++ "\n"

theorem Numeral.ne_nil (h : Numeral cs) : cs ≠ [] := by
  obtain ⟨d, ds, rfl, _⟩ := h.head
  nofun

theorem BoundText.toList_boundText (h : BoundText cs b) : (boundText b).toList = cs := by
  cases h
  case opened     => rfl
  case positive h => simp [boundText, Value.text, h.ne_nil]
  case negative h => simp [boundText, Value.text]

theorem WrittenAs.token_eq {r : FacetRange} (h : r.WrittenAs text) : r.token = text := by
  obtain ⟨lower, upper, hl, hu, ht⟩ := h
  rw [← String.toList_inj, ht, token]
  simp [hl.toList_boundText, hu.toList_boundText]

theorem namedBy_iff {r : FacetRange} :
    r.NamedBy text ↔ r.WrittenAs text ∨ ∃ written, r.WrittenAs written ∧ text = written ++ "\n" := by
  constructor
  case mp =>
    rintro ⟨lower, upper, _, hl, hu, rfl | rfl, ht⟩
    case inl => exact .inl ⟨lower, upper, hl, hu, by simpa using ht⟩
    case inr =>
      refine .inr ⟨String.ofList (lower ++ '-' :: upper), ⟨lower, upper, hl, hu, by simp⟩, ?_⟩
      rw [← String.toList_inj, ht]
      simp
  case mpr =>
    rintro (⟨lower, upper, hl, hu, ht⟩ | ⟨written, ⟨lower, upper, hl, hu, ht⟩, rfl⟩)
    case inl => exact ⟨lower, upper, [], hl, hu, .inl rfl, by simpa using ht⟩
    case inr => exact ⟨lower, upper, ['\n'], hl, hu, .inr rfl, by simp [ht]⟩

theorem IsLine.mem_lineFeed (h : IsLine text) : '\n' ∈ text.toList := by
  obtain ⟨_, written, _, rfl⟩ := h
  simp

def IsNumeric (bound : Value) : Prop :=
  bound = .null ∨ bound = .str "" ∨ bound.number?.isSome

inductive NumericText : String → Prop
  | number {v : Value} (h : v.number?.isSome) : NumericText v.text
  | range {r : FacetRange} (hl : IsNumeric r.lower) (hu : IsNumeric r.upper) : NumericText r.token

end FacetRange

theorem Value.lineFeed_not_mem_text {v : Value} (h : v.number?.isSome) : '\n' ∉ v.text.toList := by
  cases v
  case bool b   => cases b <;> decide
  case int n    => exact lineFeed_not_mem <| numberChars_intText n
  case double x => exact x.lineFeed_not_mem_text
  all_goals cases h

namespace FacetRange

theorem IsNumeric.lineFeed_not_mem_boundText (h : IsNumeric bound) :
    '\n' ∉ (boundText bound).toList := by
  rcases h with rfl | rfl | h
  case inl     => decide
  case inr.inl => decide
  case inr.inr =>
    cases bound
    case double x =>
      cases hx : x.toInt?
      case none   => simpa [boundText, hx] using x.lineFeed_not_mem_text
      case some n => simpa [boundText, hx] using lineFeed_not_mem <| numberChars_intText n
    case bool => simpa [boundText] using Value.lineFeed_not_mem_text h
    case int  => simpa [boundText] using Value.lineFeed_not_mem_text h
    all_goals cases h

theorem NumericText.lineFeed_not_mem (h : NumericText text) : '\n' ∉ text.toList := by
  cases h
  case number h => exact Value.lineFeed_not_mem_text h
  case range hl hu =>
    rw [token, String.toList_append, String.toList_append, List.mem_append, List.mem_append]
    rintro ((hm | hm) | hm)
    case inl.inl => exact hl.lineFeed_not_mem_boundText hm
    case inl.inr => exact absurd hm (by decide)
    case inr     => exact hu.lineFeed_not_mem_boundText hm

end FacetRange

namespace Decoded

theorem token_of_line (h : FacetRange.IsLine text) : (ofToken text).token ++ "\n" = text := by
  obtain ⟨r, written, hw, rfl⟩ := h
  rw [ofToken_of_named <| FacetRange.namedBy_iff.mpr <| .inr ⟨written, hw, rfl⟩]
  exact congrArg (· ++ "\n") hw.token_eq

theorem token_of_not_line (h : ¬FacetRange.IsLine text) : (ofToken text).token = text := by
  by_cases hn : ∃ r : FacetRange, r.NamedBy text
  case neg =>
    rw [ofToken_of_unnamed <| not_exists.mp hn]
    rfl
  case pos =>
    obtain ⟨r, hr⟩ := hn
    rw [ofToken_of_named hr]
    rcases FacetRange.namedBy_iff.mp hr with hw | ⟨written, hw, rfl⟩
    case inl => exact hw.token_eq
    case inr => exact absurd ⟨r, written, hw, rfl⟩ h

-- A text is kept when it is read and written again, unless it is the token of a range with a line feed
-- behind it. Then just the line feed gets lost, so what numbers and ranges of numbers are written as is kept.
theorem token_kept_iff (text : String) :
    ((ofToken text).token = text ↔ ¬FacetRange.IsLine text) ∧
      (FacetRange.IsLine text → (ofToken text).token ++ "\n" = text) ∧
      (FacetRange.NumericText text → (ofToken text).token = text) := by
  refine ⟨⟨fun hk hl => ?kept, token_of_not_line⟩, token_of_line, fun hn => ?numeric⟩
  case kept =>
    have hl := token_of_line hl
    rw [hk, String.append_eq_left_iff] at hl
    exact absurd hl (by decide)
  case numeric => exact token_of_not_line fun hl => hn.lineFeed_not_mem hl.mem_lineFeed

theorem token_kept_of_negative_bounds :
    let minusTen : Double := .finite true ⟨4621819117588971520, by decide⟩
    let r : FacetRange := ⟨.double minusTen, .str ""⟩
    (FacetRange.IsLine "-5--1.5\n" ∧ (ofToken "-5--1.5\n").token ++ "\n" = "-5--1.5\n") ∧
      r.token = "-10-*" ∧ (ofToken "-10-*").token = "-10-*" ∧ (ofToken "-10.0").token = "-10.0" := by
  intro minusTen r
  have hl : FacetRange.Numeral ['5'] := .whole <| FacetRange.digits_singleton (by decide)
  have hu : FacetRange.Numeral (['1'] ++ '.' :: ['5']) :=
    .fraction (FacetRange.digits_singleton (by decide)) (FacetRange.digits_singleton (by decide))
  have hm : FacetRange.IsLine "-5--1.5\n" :=
    ⟨⟨_, _⟩, "-5--1.5", ⟨_, _, .negative hl, .negative hu, rfl⟩, by decide⟩
  have hr : FacetRange.NumericText r.token := .range (.inr <| .inr rfl) (.inr <| .inl rfl)
  have hn : FacetRange.NumericText (Value.double minusTen).text := .number rfl
  obtain ⟨_, _, hkr⟩ := token_kept_iff r.token
  obtain ⟨_, _, hkn⟩ := token_kept_iff (Value.double minusTen).text
  exact ⟨⟨hm, (token_kept_iff _).right.left hm⟩, rfl, hkr hr, hkn hn⟩

theorem token_loses_line_feed : ¬∀ text, (ofToken text).token = text :=
  fun h => absurd (h "1-2\n") (by decide)

end Decoded
end CatalogSearch
