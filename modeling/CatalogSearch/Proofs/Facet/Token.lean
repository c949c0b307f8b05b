import CatalogSearch.Facet.Range
import CatalogSearch.Proofs.Number
import Mathlib.Data.List.TakeDrop

namespace CatalogSearch

namespace FacetRange

def Digits (cs : List Char) : Prop :=
  cs ≠ [] ∧ ∀ c ∈ cs, isDecimalDigit c

inductive Numeral : List Char → Prop
  | whole (h : Digits cs) : Numeral cs
  | fraction (hw : Digits ws) (hf : Digits fs) : Numeral (ws ++ '.' :: fs)

inductive BoundText : List Char → Value → Prop
  | opened : BoundText ['*'] .null
  | positive (h : Numeral cs) : BoundText cs (.str <| String.ofList cs)
  | negative (h : Numeral cs) : BoundText ('-' :: cs) (.str <| String.ofList ('-' :: cs))

-- The token of a range has the texts of both bounds with a `-` between. One line feed behind them is
-- ignored.
def NamedBy (r : FacetRange) (token : String) : Prop :=
  ∃ lower upper rest, BoundText lower r.lower ∧ BoundText upper r.upper ∧
    (rest = [] ∨ rest = ['\n']) ∧ token.toList = lower ++ '-' :: (upper ++ rest)

def Ends (rest : List Char) : Prop :=
  ∀ c ∈ rest.head?, isDecimalDigit c = false ∧ c ≠ '.'

theorem ends_nil : Ends [] :=
  nofun

theorem ends_cons (h : isDecimalDigit c = false ∧ c ≠ '.') : Ends (c :: rest) := by
  rintro _ ⟨⟩
  exact h

theorem digits_singleton (h : isDecimalDigit c) : Digits [c] :=
  ⟨List.cons_ne_nil _ _, List.forall_mem_singleton.mpr h⟩

theorem Digits.span (h : Digits cs) (hr : ∀ c ∈ rest.head?, isDecimalDigit c = false) :
    (cs ++ rest).span isDecimalDigit = (cs, rest) := by
  rw [List.span_eq_takeWhile_dropWhile, List.takeWhile_append_of_pos h.right,
    List.dropWhile_append_of_pos h.right]
  cases rest
  case nil       => simp
  case cons c cs => simp [hr c rfl]

theorem digits_of_span (h : cs.span isDecimalDigit = (ds, rest)) (hn : ds ≠ []) :
    Digits ds ∧ cs = ds ++ rest := by
  rw [List.span_eq_takeWhile_dropWhile] at h
  obtain ⟨rfl, rfl⟩ := Prod.mk.inj h
  exact ⟨⟨hn, List.all_eq_true.mp List.all_takeWhile⟩, List.takeWhile_append_dropWhile.symm⟩

theorem readDigits_append (h : Numeral cs) (hr : Ends rest) :
    readDigits (cs ++ rest) = some (cs, rest) := by
  have hd : ∀ c ∈ rest.head?, isDecimalDigit c = false := fun c hc => (hr c hc).left
  cases h
  case whole h =>
    rw [readDigits, h.span hd]
    obtain ⟨c, cs, rfl⟩ := List.exists_cons_of_ne_nil h.left
    split
    case h_1 he => cases he
    case h_2 he =>
      cases he
      split
      case h_1    => exact absurd rfl (hr '.' rfl).right
      case h_2    => rfl
  case fraction ws fs hw hf =>
    have hp : ∀ c ∈ ('.' :: (fs ++ rest)).head?, isDecimalDigit c = false := by
      rintro _ ⟨⟩
      decide
    rw [List.append_assoc, List.cons_append, readDigits, hw.span hp]
    obtain ⟨w, ws, rfl⟩ := List.exists_cons_of_ne_nil hw.left
    obtain ⟨f, fs, rfl⟩ := List.exists_cons_of_ne_nil hf.left
    simp only [hf.span hd]

theorem numeral_of_readDigits (h : readDigits cs = some (ds, rest)) : Numeral ds ∧ cs = ds ++ rest := by
  rw [readDigits] at h
  split at h
  case h_1 => cases h
  case h_2 whole rest' hn hs =>
    have ⟨hw, hc⟩ := digits_of_span hs (by rintro rfl; exact hn rfl)
    split at h
    case h_1 rest' =>
      split at h
      case h_1 =>
        cases h
        exact ⟨.whole hw, hc⟩
      case h_2 hf hn hs =>
        have ⟨hf, hr⟩ := digits_of_span hs (by rintro rfl; exact hn rfl)
        cases h
        exact ⟨.fraction hw hf, by rw [hc, hr, List.append_assoc, List.cons_append]⟩
    case h_2 =>
      cases h
      exact ⟨.whole hw, hc⟩

theorem Numeral.head (h : Numeral cs) : ∃ d ds, cs = d :: ds ∧ isDecimalDigit d := by
  cases h
  case whole h =>
    obtain ⟨d, ds, rfl⟩ := List.exists_cons_of_ne_nil h.left
    exact ⟨d, ds, rfl, h.right d (.head _)⟩
  case fraction hw _ =>
    obtain ⟨d, ds, rfl⟩ := List.exists_cons_of_ne_nil hw.left
    exact ⟨d, _, rfl, hw.right d (.head _)⟩

theorem readBound_append (h : BoundText cs b) (hr : Ends rest) :
    readBound (cs ++ rest) = some (b, rest) := by
  cases h
  case opened     => rfl
  case negative h => simp [readBound, readDigits_append h hr]
  case positive h =>
    have hd := readDigits_append h hr
    obtain ⟨d, ds, rfl, hn⟩ := h.head
    have hs : d ≠ '*' := by rintro rfl; exact absurd hn (by decide)
    have hm : d ≠ '-' := by rintro rfl; exact absurd hn (by decide)
    rw [List.cons_append] at hd ⊢
    simp [readBound, hs, hm, hd]

theorem boundText_of_readBound (h : readBound cs = some (b, rest)) :
    ∃ ds, BoundText ds b ∧ cs = ds ++ rest := by
  rw [readBound.eq_def] at h
  split at h
  case h_1 =>
    cases h
    exact ⟨_, .opened, rfl⟩
  case h_2 =>
    obtain ⟨⟨ds, rest'⟩, hd, he⟩ := Option.map_eq_some_iff.mp h
    cases he
    have ⟨hn, hc⟩ := numeral_of_readDigits hd
    exact ⟨_, .negative hn, by rw [hc]; rfl⟩
  case h_3 =>
    obtain ⟨⟨ds, rest'⟩, hd, he⟩ := Option.map_eq_some_iff.mp h
    cases he
    have ⟨hn, hc⟩ := numeral_of_readDigits hd
    exact ⟨_, .positive hn, hc⟩

theorem ofToken?_eq_some_iff {r : FacetRange} {token : String} :
    ofToken? token = some r ↔ r.NamedBy token := by
  simp only [ofToken?, Option.bind_eq_bind, Option.bind_eq_some_iff]
  constructor
  case mp =>
    rintro ⟨⟨lower, rest⟩, hl, h⟩
    split at h
    case h_2 => cases h
    case h_1 rest' hr =>
      obtain rfl : rest = '-' :: rest' := hr
      obtain ⟨⟨upper, rest⟩, hu, h⟩ := Option.bind_eq_some_iff.mp h
      have ⟨ls, hl, ht⟩ := boundText_of_readBound hl
      have ⟨us, hu, hr⟩ := boundText_of_readBound hu
      split at h
      case isFalse => cases h
      case isTrue hm =>
        cases h
        exact ⟨ls, us, rest, hl, hu, hm, by rw [ht, hr]⟩
  case mpr =>
    rintro ⟨ls, us, rest, hl, hu, hm, ht⟩
    have hr : Ends rest := by
      rcases hm with rfl | rfl
      case inl => exact ends_nil
      case inr => exact ends_cons (by decide)
    refine ⟨(r.lower, '-' :: (us ++ rest)), ?lower, ?upper⟩
    case lower => exact ht ▸ readBound_append hl (ends_cons (by decide))
    case upper => simp [readBound_append hu hr, hm]

theorem digits_toDigits (n : Nat) : Digits (Nat.toDigits 10 n) :=
  ⟨Nat.toDigits_ne_nil, fun _ => isDecimalDigit_of_mem_toDigits⟩

theorem boundText_intText (n : Int) : BoundText (intText n).toList (.str <| intText n) := by
  by_cases h : n < 0
  case pos =>
    have ht := intText_of_neg h
    rw [← String.ofList_toList (s := intText n), String.toList_ofList, ht]
    exact .negative <| .whole <| digits_toDigits _
  case neg =>
    have ht := intText_of_nonneg <| Int.not_lt.mp h
    rw [← String.ofList_toList (s := intText n), String.toList_ofList, ht]
    exact .positive <| .whole <| digits_toDigits _

end FacetRange

theorem Decoded.ofToken_of_named {r : FacetRange} {token : String} (h : r.NamedBy token) :
    ofToken token = .range r := by
  rw [ofToken, FacetRange.ofToken?_eq_some_iff.mpr h]
  rfl

theorem Decoded.ofToken_of_unnamed {token : String} (h : ∀ r : FacetRange, ¬r.NamedBy token) :
    ofToken token = .plain token := by
  have hn : FacetRange.ofToken? token = none :=
    Option.eq_none_iff_forall_ne_some.mpr fun r hr => h r <| FacetRange.ofToken?_eq_some_iff.mp hr
  rw [ofToken, hn]
  rfl

end CatalogSearch
