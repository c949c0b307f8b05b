import CatalogSearch.CommandLine.Search
import CatalogSearch.Proofs.Facet.Aggregation
import CatalogSearch.Proofs.Facet.Shown
import Mathlib.Data.List.TakeWhile

namespace CatalogSearch

theorem splitOn_eq (sep : Char) (cs : List Char) : splitOn sep cs = cs.splitOn sep := by
  induction cs
  case nil => rfl
  case cons c cs hi =>
    have hs : (c :: cs).splitOn sep =
        if c == sep then [] :: cs.splitOn sep else (cs.splitOn sep).modifyHead (List.cons c) :=
      List.splitOnP_cons_eq_if_modifyHead c cs
    rw [splitOn, hi, hs]
    by_cases hc : c = sep
    case pos => simp [hc]
    case neg =>
      cases hp : cs.splitOn sep
      case nil  => exact absurd hp (List.splitOnP_ne_nil _ cs)
      case cons => simp [hc]

theorem not_mem_of_mem_splitOn {sep : Char} {part cs : List Char} (h : part ∈ splitOn sep cs) : sep ∉ part := by
  induction cs generalizing part
  case nil => simp [splitOn] at h; simp [h]
  case cons c cs hi =>
    rw [splitOn] at h
    split at h
    case isTrue hc =>
      cases h
      case head   => exact List.not_mem_nil
      case tail h => exact hi h
    case isFalse hc =>
      split at h
      case h_1 first parts hp =>
        have hf : sep ∉ first := hi (hp ▸ List.mem_cons_self)
        cases h
        case head   => exact List.not_mem_cons_of_ne_of_not_mem (Ne.symm hc) hf
        case tail h => exact hi (hp ▸ List.mem_cons_of_mem first h)
      case h_2 hp => simp [List.mem_singleton.mp h, Ne.symm hc]

theorem Registry.has_foldl_register_iff {r : Registry} {codes : List String} :
    (codes.foldl register r).has code ↔ code ∈ codes ∨ r.has code := by
  induction codes generalizing r
  case nil           => simp
  case cons c cs hi => rw [List.foldl_cons, hi, has_register_iff, List.mem_cons, or_left_comm, or_assoc]

theorem Registry.ofTokens_foldl_register {r : Registry} {codes : List String} (h : r.OfTokens) :
    (codes.foldl register r).OfTokens := by
  induction codes generalizing r
  case nil          => exact h
  case cons c cs hi => exact hi (h.register c)

theorem Registry.has_registered_iff {codes : List String} : (codes.foldl register {}).has code ↔ code ∈ codes := by
  rw [has_foldl_register_iff]
  exact or_iff_left nofun

namespace Response

theorem untransformed_of_facetField (h : facetField registry code v = .error (.missingTransformation code')) :
    Untransformed registry (code, v) := by
  cases facetField_eq_error_iff.mp h
  case bucket v vs parts hb hi hf =>
    have ⟨before, w, after, hs, _, hw⟩ := hf
    cases hw
    case value bucket hk hf =>
      obtain ⟨ht, hr⟩ : ¬IsTerm bucket ∧ registry.find? code = none := by
        cases hf
        case untransformed ht hr => exact ⟨ht, hr⟩
      refine ⟨hr, bucket, ?_, ht⟩
      have hm : .object bucket ∈ vs := by simp [hs]
      cases v
      case list =>
        cases hi
        rw [buckets, Value.member?, hb]
        exact List.mem_filterMap.mpr ⟨_, hm, shown?_of_lookup hk⟩
      case str =>
        cases hi
        simp at hm
      case object =>
        cases hi
        simp at hm
      all_goals cases hi

theorem countsByCode_of_missing {r : Response}
    (h : r.facetFields registry without = .error (.missingTransformation code)) : r.CountsByCode := by
  cases Outcome.bind_eq_error_iff.mp h
  case inl h =>
    have ⟨_, _, he⟩ := Outcome.liftM_eq_error_iff.mp h
    cases he
  case inr h =>
    have ⟨found, hf, h⟩ := h
    refine ⟨found, Outcome.mapError_eq_ok_iff.mp hf, fun hv => ?_⟩
    rw [if_pos hv] at h
    cases found
    case none => cases hv
    case some v =>
      cases v
      case object fields => exact ⟨fields, rfl⟩
      all_goals cases h

theorem exists_untransformed {r : Response}
    (h : r.facetFields registry without = .error (.missingTransformation code)) :
    ∃ a ∈ r.aggregations, Untransformed registry a := by
  rw [facetFields_eq_mapM (countsByCode_of_missing h), Outcome.mapM_eq_error_iff] at h
  have ⟨before, a, after, hs, _, ha⟩ := h
  have hm : a ∈ r.aggregations.filter fun a => !without.contains a.1 :=
    hs ▸ List.mem_append_right _ List.mem_cons_self
  exact ⟨a, List.mem_of_mem_filter hm, untransformed_of_facetField ha⟩

def IsRanged (aggregation : String × Value) : Prop :=
  ∃ bucket ∈ buckets aggregation.2, ¬IsTerm bucket

end Response

namespace CommandLine

open SearchArguments

structure IsPair (text code value : String) : Prop where
  parts    : text = code ++ "=" ++ value
  single   : '=' ∉ code.toList
  nonempty : code ≠ ""

def Tokens (text : String) (tokens : List String) : Prop :=
  ∃ parts, text = ",".intercalate parts ∧ (∀ part ∈ parts, ',' ∉ part.toList) ∧ tokens = parts.filter (· ≠ "")

def IsRangeOption (text : String) (option : String × List FacetRange) : Prop :=
  ∃ value tokens, IsPair text option.1 value ∧ Tokens value tokens ∧
    List.Forall₂ (fun token r => FacetRange.NamedBy r token) tokens option.2

theorem eq_of_tail?_dropWhile {p : Char → Bool} (h : (cs.dropWhile p).tail? = some rest) :
    ∃ c, p c = false ∧ cs = cs.takeWhile p ++ c :: rest := by
  induction cs
  case nil => cases h
  case cons c cs hi =>
    by_cases hc : p c
    case pos =>
      rw [List.dropWhile_cons_of_pos hc] at h
      have ⟨sep, hs, he⟩ := hi h
      exact ⟨sep, hs, by rw [List.takeWhile_cons_of_pos hc, List.cons_append, ← he]⟩
    case neg =>
      rw [List.dropWhile_cons_of_neg hc] at h
      cases h
      exact ⟨c, Bool.eq_false_iff.mpr hc, by rw [List.takeWhile_cons_of_neg hc, List.nil_append]⟩

theorem isPair_of_pairOf (h : pairOf option text = .ok (code, value)) : IsPair text code value := by
  rw [pairOf] at h
  split at h
  case h_2 => cases h
  case h_1 c cs rest hc hr =>
    cases h
    have ⟨sep, hs, ht⟩ := eq_of_tail?_dropWhile hr
    refine ⟨?parts, ?single, ?nonempty⟩
    case parts =>
      have hs : sep = '=' := by simpa using hs
      rw [← String.toList_inj, ht, hc, hs]
      simp
    case single =>
      rw [String.toList_ofList, ← hc]
      intro hm
      exact absurd (List.mem_takeWhile_imp hm) (by decide)
    case nonempty =>
      intro he
      simpa using congrArg String.toList he

theorem tokens_splitOn (text : String) :
    Tokens text (((splitOn ',' text.toList).filter (· ≠ [])).map String.ofList) := by
  refine ⟨(splitOn ',' text.toList).map String.ofList, ?parts, ?apart, ?tokens⟩
  case parts =>
    rw [← String.toList_inj, String.toList_intercalate, List.map_map, splitOn_eq]
    simp [Function.comp_def, List.intercalate_splitOn]
  case apart =>
    intro part hp
    have ⟨cs, hc, he⟩ := List.mem_map.mp hp
    rw [← he, String.toList_ofList]
    exact not_mem_of_mem_splitOn hc
  case tokens =>
    rw [List.filter_map]
    refine congrArg _ <| List.filter_congr fun cs _ => ?_
    by_cases hc : cs = [] <;> simp [hc]

theorem named_of_rangeOf (h : rangeOf token = .ok r) : r.NamedBy token := by
  rw [rangeOf] at h
  split at h
  case h_1 hr =>
    cases h
    exact FacetRange.ofToken?_eq_some_iff.mp hr
  case h_2 => cases h

theorem isRangeOption_of_rangeFacetOf (h : rangeFacetOf text = .ok facet) :
    ∃ option, IsRangeOption text option ∧ facet = .ranges option.1 option.2 := by
  have ⟨(code, value), hp, h⟩ := Outcome.bind_eq_ok_iff.mp h
  have ⟨ranges, hr, h⟩ := Outcome.bind_eq_ok_iff.mp h
  cases h
  refine ⟨(code, ranges), ⟨value, _, isPair_of_pairOf hp, tokens_splitOn value, ?_⟩, rfl⟩
  rw [List.forall₂_map_left_iff]
  exact (Outcome.forall₂_of_mapM hr).imp fun _ _ => named_of_rangeOf

def requestsOf (codes : List String) (options : List (String × List FacetRange)) : List FacetRequest :=
  codes.map .terms ++ options.map fun option => .ranges option.1 option.2

section

variable {codes texts : List String} {options : List (String × List FacetRange)}

theorem codes_requestsOf (codes : List String) (options : List (String × List FacetRange)) :
    (requestsOf codes options).map FacetRequest.code = codes ++ options.map (·.1) := by
  simp [requestsOf, FacetRequest.code, Function.comp_def]

theorem options_of_facetsOf (h : facetsOf codes texts = .ok (requests, registry)) :
    ∃ options, List.Forall₂ IsRangeOption texts options ∧ requests = requestsOf codes options ∧
      registry = (options.map (·.1)).foldl Registry.register {} := by
  have ⟨ranged, hr, h⟩ := Outcome.bind_eq_ok_iff.mp h
  have ⟨options, ho, hs⟩ := Outcome.exists_map_of_forall₂ (Outcome.forall₂_of_mapM hr) fun _ _ =>
    isRangeOption_of_rangeFacetOf
  cases h
  subst hs
  refine ⟨options, ho, rfl, ?_⟩
  simp [FacetRequest.code, Function.comp_def]

theorem lastOf_ranges (h : LastOf (·.1) option options) :
    LastOf FacetRequest.code (.ranges option.1 option.2) (requestsOf codes options) :=
  .append_front _ <| lastOf_map.mpr ⟨option, h, rfl⟩

theorem lastOf_terms (h : code ∈ codes) (hn : code ∉ options.map (·.1)) :
    LastOf FacetRequest.code (.terms code) (requestsOf codes options) := by
  have hc : code ∈ codes.map (FacetRequest.code ∘ .terms) := List.mem_map.mpr ⟨code, h, rfl⟩
  have ⟨code', hl, he⟩ := exists_lastOf hc
  have ht : LastOf FacetRequest.code (.terms code) (codes.map .terms) :=
    lastOf_map.mpr ⟨code', hl, congrArg FacetRequest.terms he⟩
  refine ht.append_rest fun facet hf he => hn ?_
  have ⟨option, ho, hr⟩ := List.mem_map.mp hf
  exact List.mem_map.mpr ⟨option, ho, by rw [← hr] at he; exact he⟩

end

-- Whatever options are accepted, the codes of ranged facets are those that have range tokens. They are counted in
-- the ranges of their last option, and all other requested codes by terms. So every reply with ranges for no other
-- codes can be shown.
theorem ranged_facets_decodable (h : facetsOf codes texts = .ok (requests, registry)) :
    ∃ options, List.Forall₂ IsRangeOption texts options ∧
      registry.OfTokens ∧ (∀ code, registry.has code ↔ code ∈ options.map (·.1)) ∧
      (FacetRequest.aggregations requests).keys = (codes ++ options.map (·.1)).eraseDups ∧
      (∀ option, LastOf (·.1) option options → ∃ v,
        (FacetRequest.aggregations requests).get? option.1 = some v ∧
          (FacetRequest.ranges option.1 option.2).CountedBy v) ∧
      (∀ code ∈ codes, code ∉ options.map (·.1) → ∃ v,
        (FacetRequest.aggregations requests).get? code = some v ∧ (FacetRequest.terms code).CountedBy v) ∧
      ∀ (r : Response) (without : List String) (code : String),
        (∀ a ∈ r.aggregations, Response.IsRanged a → a.1 ∈ options.map (·.1)) →
          r.facetFields registry without ≠ .error (.missingTransformation code) := by
  have ⟨options, ho, hq, hr⟩ := options_of_facetsOf h
  have hh (code : String) : registry.has code ↔ code ∈ options.map (·.1) :=
    hr ▸ Registry.has_registered_iff
  have hot : registry.OfTokens := hr ▸ Registry.ofTokens_foldl_register Registry.ofTokens_empty
  refine ⟨options, ho, hot, hh, ?codes, ?ranged, ?terms, ?decoded⟩
  case codes => rw [hq, FacetRequest.keys_aggregations, codes_requestsOf]
  case ranged =>
    intro option hl
    exact ⟨_, hq ▸ FacetRequest.get?_aggregations (lastOf_ranges hl), FacetRequest.countedBy_aggregation _⟩
  case terms =>
    intro code hc hn
    exact ⟨_, hq ▸ FacetRequest.get?_aggregations (lastOf_terms hc hn), FacetRequest.countedBy_aggregation _⟩
  case decoded =>
    intro r without code ha hf
    have ⟨a, hm, hu⟩ := Response.exists_untransformed hf
    have hc := (hh a.1).mpr <| ha a hm hu.right
    rw [Registry.has, hu.left] at hc
    cases hc

theorem ranged_facets_decodable_repeated :
    let below : FacetRange := ⟨.null, .str "5"⟩
    let requests := [.terms "price", .terms "brand", .ranges "price" [], .ranges "price" [below]]
    facetsOf ["price", "brand"] ["price=,", "price=*-5,"] = .ok (requests, .register {} "price") ∧
      ∀ (r : Response) (without : List String) (code : String),
        (∀ a ∈ r.aggregations, Response.IsRanged a → a.1 = "price") →
          r.facetFields (.register {} "price") without ≠ .error (.missingTransformation code) := by
  intro below requests
  have h : facetsOf ["price", "brand"] ["price=,", "price=*-5,"] = .ok (requests, .register {} "price") := by
    rfl
  have ⟨options, _, _, hh, _, _, _, hd⟩ := ranged_facets_decodable h
  have hp : "price" ∈ options.map (·.1) := (hh "price").mp rfl
  exact ⟨h, fun r without code ha => hd r without code fun a hm hr => ha a hm hr ▸ hp⟩

end CommandLine
end CatalogSearch
