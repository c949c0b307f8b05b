import CatalogSearch.Engine.Basic
import CatalogSearch.Proofs.OrderedMap
import CatalogSearch.Proofs.Outcome

namespace CatalogSearch

def FacetRange.written? (bound : Value) : Option Value :=
  if bound = .null then none else some bound

structure FacetRange.Entry (r : FacetRange) (members : List (String × Value)) : Prop where
  lower : members.lookup "from" = written? r.lower
  upper : members.lookup "to" = written? r.upper
  names : (members.map (·.1)).Sublist ["from", "to"]

namespace FacetRequest

open FacetRange

-- The entries of an aggregation by ranges: one for each range, in order, or a single one without any bounds.
inductive Entries : List FacetRange → List (List (String × Value)) → Prop
  | each (hp : parts ≠ []) (he : List.Forall₂ Entry parts entries) : Entries parts entries
  | unbounded : Entries [] [[]]

inductive CountedBy : FacetRequest → Value → Prop
  | terms {code : String} : CountedBy (terms code) (.object [("terms", .object [("field", .str code)])])
  | ranges {code : String} (hn : entries ≠ []) (he : Entries parts entries) :
    CountedBy (ranges code parts)
      (.object [("range", .object [("field", .str code), ("ranges", .list (entries.map .object))])])

theorem exists_entry (r : FacetRange) : ∃ members, boundsValue r = .object members ∧ r.Entry members := by
  refine ⟨_, rfl, ?lower, ?upper, ?names⟩
  all_goals by_cases hl : r.lower = .null <;> by_cases hu : r.upper = .null
  all_goals simp [hl, hu, written?, lookup_entries_cons]

theorem exists_entries (parts : List FacetRange) :
    ∃ entries, parts.map boundsValue = entries.map .object ∧ List.Forall₂ Entry parts entries := by
  induction parts
  case nil => exact ⟨[], rfl, .nil⟩
  case cons r parts hi =>
    have ⟨members, hm, he⟩ := exists_entry r
    have ⟨entries, hs, hes⟩ := hi
    exact ⟨members :: entries, by simp [hm, hs], .cons he hes⟩

theorem countedBy_aggregation (facet : FacetRequest) : facet.CountedBy facet.aggregation := by
  cases facet
  case terms code => exact .terms
  case ranges code parts =>
    cases parts
    case nil => exact .ranges (List.cons_ne_nil _ _) .unbounded
    case cons r parts =>
      have ⟨entries, hs, he⟩ := exists_entries (r :: parts)
      have hn : entries ≠ [] := by
        cases he
        nofun
      have hc : CountedBy (.ranges code (r :: parts)) _ := .ranges hn (.each (List.cons_ne_nil _ _) he)
      rw [← hs] at hc
      exact hc

theorem keys_aggregations (facets : List FacetRequest) :
    (aggregations facets).keys = (facets.map code).eraseDups := by
  rw [aggregations, OrderedMap.keys_ofList, List.map_map]
  rfl

theorem mem_aggregations_iff {facets : List FacetRequest} :
    entry ∈ (aggregations facets).entries ↔
      ∃ facet, LastOf code facet facets ∧ (facet.code, facet.aggregation) = entry := by
  rw [aggregations, OrderedMap.mem_ofList_iff, lastOf_map]
  rfl

theorem get?_aggregations {facets : List FacetRequest} (h : LastOf code facet facets) :
    (aggregations facets).get? facet.code = some facet.aggregation :=
  (OrderedMap.mem_entries_iff _).mp <| mem_aggregations_iff.mpr ⟨facet, h, rfl⟩

theorem aggregations_isEmpty_iff {facets : List FacetRequest} : (aggregations facets).isEmpty ↔ facets = [] := by
  have hk := keys_aggregations facets
  cases facets
  case nil => simp [aggregations, OrderedMap.ofList, OrderedMap.isEmpty, OrderedMap.empty]
  case cons facet facets =>
    have hn : (aggregations (facet :: facets)).entries ≠ [] := by
      intro he
      simp [OrderedMap.keys, he, List.eraseDups_cons] at hk
    simpa [OrderedMap.isEmpty] using hn

theorem aggregations_of_request {e : Engine} (h : e.request criteria options selection = .ok request) :
    request.aggregations = aggregations options.facets := by
  have ⟨query, _, h⟩ := Outcome.bind_eq_ok_iff.mp h
  have ⟨start, _, h⟩ := Outcome.bind_eq_ok_iff.mp h
  cases h
  rfl

theorem lookup_aggregations (request : Request) : request.members.lookup "aggregations" =
    if request.aggregations.isEmpty then none else some (.ofMap request.aggregations) := by
  by_cases ha : request.aggregations.isEmpty <;> by_cases hs : request.sort.isEmpty
  all_goals simp [Request.members, ha, hs, lookup_entries_cons]

-- The codes that are counted are the requested ones, each once and in the order in which they first occur. A code
-- is counted by the last request for it. This is what is sent whatever values are selected, and nothing is sent if
-- nothing is requested.
theorem aggregations_follow_requests (facets : List FacetRequest) :
    (aggregations facets).keys = (facets.map code).eraseDups ∧
      (∀ entry ∈ (aggregations facets).entries,
        ∃ facet, LastOf code facet facets ∧ entry.1 = facet.code ∧ facet.CountedBy entry.2) ∧
      ∀ (e : Engine) (criteria : Value) (options : SearchOptions) (selection : Selection) (request : Request),
        options.facets = facets → e.request criteria options selection = .ok request →
          request.members.lookup "aggregations" =
            if facets = [] then none else some (.ofMap (aggregations facets)) := by
  refine ⟨keys_aggregations facets, ?counted, ?sent⟩
  case counted =>
    intro entry he
    have ⟨facet, hl, hf⟩ := mem_aggregations_iff.mp he
    subst hf
    exact ⟨facet, hl, rfl, countedBy_aggregation facet⟩
  case sent =>
    intro e criteria options selection request hf hr
    rw [lookup_aggregations, aggregations_of_request hr, hf]
    simp only [aggregations_isEmpty_iff]

end FacetRequest
end CatalogSearch
