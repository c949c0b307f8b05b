import CatalogSearch.Proofs.Engine.Agreement
import CatalogSearch.Proofs.Engine.Sending
import CatalogSearch.Proofs.Response

namespace CatalogSearch

open scoped List

namespace Selection

def AddsInactive (code : String) (selection extended : Selection) : Prop :=
  ∃ before after, selection.entries = before ++ after ∧
    extended.entries = before ++ (code, .list []) :: after

namespace AddsInactive

variable {selection extended : Selection}

theorem keys (h : AddsInactive code selection extended) : ∃ before after,
    selection.keys = before ++ after ∧ extended.keys = before ++ code :: after := by
  have ⟨before, after, hs, hx⟩ := h
  exact ⟨before.map (·.1), after.map (·.1), by simp [OrderedMap.keys, hs], by simp [OrderedMap.keys, hx]⟩

theorem mem_keys_iff (h : AddsInactive code selection extended) :
    k ∈ extended.keys ↔ k = code ∨ k ∈ selection.keys := by
  have ⟨before, after, hs, hx⟩ := h.keys
  simp [hs, hx, or_left_comm]

theorem not_mem_keys (h : AddsInactive code selection extended) : code ∉ selection.keys := by
  have ⟨before, after, hs, hx⟩ := h.keys
  have hn : (before ++ code :: after).Nodup := hx ▸ extended.nodup
  rw [hs]
  exact (List.nodup_cons.mp <| List.perm_middle.nodup_iff.mp hn).left

theorem erase_self (h : AddsInactive code selection extended) : extended.erase code = selection := by
  have hn : ∀ entry ∈ selection.entries, entry.1 ≠ code :=
    fun entry hm he => h.not_mem_keys (he ▸ List.mem_map_of_mem hm)
  have ⟨before, after, hs, hx⟩ := h
  ext : 1
  change extended.entries.filter _ = selection.entries
  rw [hx, List.filter_append, List.filter_cons_of_neg (by simp), ← List.filter_append, ← hs]
  exact List.filter_eq_self.mpr fun entry hm => decide_eq_true (hn entry hm)

theorem erase (h : AddsInactive code selection extended) (hk : k ≠ code) :
    AddsInactive code (selection.erase k) (extended.erase k) := by
  have ⟨before, after, hs, hx⟩ := h
  exact ⟨before.filter (·.1 ≠ k), after.filter (·.1 ≠ k), by simp [OrderedMap.erase, hs],
    by simp [OrderedMap.erase, hx, hk.symm]⟩

theorem clauses (h : AddsInactive code selection extended) (registry : Registry) (rename : String → String) :
    extended.clauses registry rename = selection.clauses registry rename := by
  have ⟨before, after, hs, hx⟩ := h
  have he : entryClause? registry rename code (.list []) = .ok none := rfl
  simp only [Selection.clauses, hs, hx, List.mapM_append, List.mapM_cons, he]
  cases before.mapM fun entry => entryClause? registry rename entry.1 entry.2
  case error => rfl
  case ok found =>
    cases after.mapM fun entry => entryClause? registry rename entry.1 entry.2
    case error     => rfl
    case ok found' => exact congrArg Except.ok (by simp)

end AddsInactive
end Selection

def Findings.less (code : String) (f : Findings) : Findings :=
  { f with facets := f.facets.filter (·.code ≠ code) }

-- The same result, but that the facet of a code may stand at another place.
structure SearchResult.Moves (code : String) (result result' : SearchResult) : Prop where
  total      : result'.total = result.total
  productIds : result'.productIds = result.productIds
  facets     : result'.facets.Perm result.facets
  others     : result'.facets.filter (·.code ≠ code) = result.facets.filter (·.code ≠ code)

theorem Findings.moves_result {f : Findings} {result : SearchResult} (code : String)
    (h : f.result (before ++ after) = .ok result) :
    ∃ result', (f.less code).result (before ++ Engine.facetsOf code f :: after) = .ok result' ∧
      result.Moves code result' := by
  have ⟨ht, hi, hf⟩ := Findings.result_eq_ok_iff.mp h
  refine ⟨⟨(f.less code).facets ++ (before ++ Engine.facetsOf code f :: after).flatten, result.total,
    result.productIds⟩, result_eq_ok_iff.mpr ⟨ht, hi, rfl⟩, rfl, rfl, ?facets, ?others⟩
  case others => simp [hf, less, Engine.facetsOf]
  case facets =>
    have hp : (f.less code).facets ++ Engine.facetsOf code f ~ f.facets := by
      simpa [less, Engine.facetsOf] using
        List.perm_append_comm.trans (List.filter_append_perm (·.code = code) f.facets)
    calc (f.less code).facets ++ (before ++ Engine.facetsOf code f :: after).flatten
      _ ~ (f.less code).facets ++ (Engine.facetsOf code f :: (before ++ after)).flatten :=
        List.perm_middle.flatten.append_left _
      _ = (f.less code).facets ++ Engine.facetsOf code f ++ (before ++ after).flatten := by simp
      _ ~ f.facets ++ (before ++ after).flatten := hp.append_right _
      _ = result.facets := hf.symm

namespace Engine

variable {e : Engine} {client : Call → Except Error Value} {options : SearchOptions}

section

variable (e : Engine) (client : Call → Except Error Value) (criteria : Value) (options : SearchOptions)
  (selection : Selection)

def asksFor : List Call :=
  match e.request criteria options selection with
  | .ok r    => [callOf r]
  | .error _ => []

def findsFor : Except Error Findings := do
  e.findings selection (client <| callOf <| ← e.request criteria options selection)

def facetsFor (code : String) : Except Error (List FacetField) :=
  (e.findsFor client criteria options (selection.erase code)).map (facetsOf code)

theorem main_against_amountsTo : ((e.main criteria options).against client).AmountsTo
    (e.asksFor criteria options options.selection) ()
    (e.findsFor client criteria options options.selection) := by
  unfold asksFor findsFor
  cases hr : e.request criteria options options.selection
  case ok r      => exact main_amountsTo hr
  case error err =>
    rw [main, Dialogue.against_bind]
    exact (search_amountsTo_of_error hr).stop

theorem siblingFacets_against_amountsTo (code : String) :
    ((e.siblingFacets criteria options code).against client).AmountsTo
    (e.asksFor criteria options (options.selection.erase code)) ()
    (e.facetsFor client criteria options options.selection code) := by
  unfold asksFor facetsFor findsFor
  cases hr : e.request criteria options (options.selection.erase code)
  case ok r      => exact siblingFacets_amountsTo hr
  case error err =>
    simp only [siblingFacets, debug, Dialogue.against_bind]
    exact .before ⟨rfl, rfl, rfl⟩ (search_amountsTo_of_error hr).stop

end

variable {selection extended : Selection}

theorem verdict_eq : e.verdict client criteria options = (do
    let found ← e.findsFor client criteria options options.selection
    let selected ← options.selection.keys.mapM (e.facetsFor client criteria options options.selection)
    (liftM (found.result selected) : Except Error SearchResult)) := by
  simp only [verdict, (main_against_amountsTo ..).outcome, (siblingFacets_against_amountsTo ..).outcome]

theorem mem_requests_iff : call ∈ e.requests client criteria options ↔
    call ∈ e.asksFor criteria options options.selection ∨
      ∃ code ∈ options.selection.keys, call ∈ e.asksFor criteria options (options.selection.erase code) := by
  simp only [requests, (main_against_amountsTo ..).asked, (siblingFacets_against_amountsTo ..).asked, List.mem_append,
    List.mem_flatMap]

theorem facetsOf_less {f : Findings} (hk : k ≠ code) : facetsOf k (f.less code) = facetsOf k f := by
  rw [facetsOf, facetsOf, Findings.less, List.filter_filter]
  refine List.filter_congr fun field _ => ?_
  by_cases hc : field.code = k <;> simp [hc, hk]

section

variable (hx : Selection.AddsInactive code selection extended)

include hx

theorem request_extended : e.request criteria options extended = e.request criteria options selection := by
  simp only [request, Query.build, Query.filtersClause, hx.clauses]

theorem asksFor_extended : e.asksFor criteria options extended = e.asksFor criteria options selection := by
  rw [asksFor, request_extended hx, asksFor]

theorem findings_extended (h : e.findings selection reply = .ok f) :
    e.findings extended reply = .ok (f.less code) := by
  have ⟨(response, total), hr, h⟩ := Outcome.bind_eq_ok_iff.mp h
  have ⟨facets, hf, h⟩ := Outcome.bind_eq_ok_iff.mp h
  cases h
  have hf := Response.facetFields_less (fun _ => hx.mem_keys_iff) hf
  exact Outcome.bind_eq_ok_iff.mpr ⟨_, hr, Outcome.bind_eq_ok_iff.mpr ⟨_, hf, rfl⟩⟩

theorem findsFor_extended (h : e.findsFor client criteria options selection = .ok f) :
    e.findsFor client criteria options extended = .ok (f.less code) := by
  have ⟨r, hr, h⟩ := Outcome.bind_eq_ok_iff.mp h
  exact Outcome.bind_eq_ok_iff.mpr ⟨r, (request_extended hx).trans hr, findings_extended hx h⟩

theorem facetsFor_self (h : e.findsFor client criteria options selection = .ok f) :
    e.facetsFor client criteria options extended code = .ok (facetsOf code f) := by
  rw [facetsFor, hx.erase_self, h]
  rfl

theorem facetsFor_extended (hk : k ∈ selection.keys)
    (h : e.facetsFor client criteria options selection k = .ok fields) :
    e.facetsFor client criteria options extended k = .ok fields := by
  have hne : k ≠ code := fun he => hx.not_mem_keys (he ▸ hk)
  obtain ⟨f, hf, rfl⟩ := Outcome.map_eq_ok_iff.mp h
  exact Outcome.map_eq_ok_iff.mpr ⟨_, findsFor_extended (hx.erase hne) hf, facetsOf_less hne⟩

theorem exists_facetsFor_extended (hf : e.findsFor client criteria options selection = .ok f)
    (hs : selection.keys.mapM (e.facetsFor client criteria options selection) = .ok selected) :
    ∃ before after, selected = before ++ after ∧
      extended.keys.mapM (e.facetsFor client criteria options extended) =
        .ok (before ++ facetsOf code f :: after) := by
  have hall : ∀ k ∈ selection.keys, ∀ fields, e.facetsFor client criteria options selection k = .ok fields →
      e.facetsFor client criteria options extended k = .ok fields :=
    fun k hk _ => facetsFor_extended hx hk
  have ⟨before, after, hk, hk'⟩ := hx.keys
  rw [hk] at hs hall
  have ⟨hb, ha⟩ := List.forall_mem_append.mp hall
  have ⟨sb, sa, hsb, hsa, he⟩ := Outcome.mapM_append_eq_ok_iff.mp hs
  have hsa' := Outcome.mapM_cons_eq_ok_iff.mpr ⟨_, _, facetsFor_self hx hf, Outcome.mapM_of_ok hsa ha, rfl⟩
  rw [hk']
  exact ⟨sb, sa, he, Outcome.mapM_append_eq_ok_iff.mpr ⟨_, _, Outcome.mapM_of_ok hsb hb, hsa', rfl⟩⟩

end

theorem verdict_extended (hx : Selection.AddsInactive code options.selection extended)
    (h : e.verdict client criteria options = .ok result) :
    ∃ result', e.verdict client criteria { options with selection := extended } = .ok result' ∧
      result.Moves code result' := by
  rw [verdict_eq] at h ⊢
  have ⟨found, hf, h⟩ := Outcome.bind_eq_ok_iff.mp h
  have ⟨selected, hs, h⟩ := Outcome.bind_eq_ok_iff.mp h
  obtain ⟨before, after, rfl, hs'⟩ := exists_facetsFor_extended hx hf hs
  have ⟨result', hr, hmoves⟩ := Findings.moves_result code <| Outcome.mapError_eq_ok_iff.mp h
  have hr : (liftM (Findings.result _ _) : Except Error _) = .ok result' := Outcome.mapError_eq_ok_iff.mpr hr
  refine ⟨result', Outcome.bind_eq_ok_iff.mpr ⟨_, findsFor_extended hx hf, ?_⟩, hmoves⟩
  exact Outcome.bind_eq_ok_iff.mpr ⟨_, hs', hr⟩

theorem requests_extended (hx : Selection.AddsInactive code options.selection extended)
    (h : call ∈ e.requests client criteria { options with selection := extended }) :
    call ∈ e.requests client criteria options := by
  rcases mem_requests_iff.mp h with hm | ⟨k, hk, hm⟩
  case inl => exact mem_requests_iff.mpr <| .inl (asksFor_extended hx ▸ hm)
  case inr =>
    change k ∈ extended.keys at hk
    change call ∈ e.asksFor criteria options (extended.erase k) at hm
    by_cases hc : k = code
    case pos =>
      rw [hc, hx.erase_self] at hm
      exact mem_requests_iff.mpr <| .inl hm
    case neg =>
      rw [asksFor_extended (hx.erase hc)] at hm
      have hk := (hx.mem_keys_iff.mp hk).resolve_left hc
      exact mem_requests_iff.mpr <| .inr ⟨k, hk, hm⟩

section

variable {client : Nat → Call → Except Error Value}

theorem Execution.comparable (h : e.Execution client criteria options (.ok result) sent) :
    ∃ order, e.workers.compareInt? 1 = .ok order := by
  generalize ho : Except.ok result = outcome at h
  cases h
  case alone t ht =>
    rw [← ht, query, Dialogue.run_bind] at ho
    obtain ⟨found, _, ho⟩ := Transcript.andThen_outcome_eq_ok_iff.mp ho.symm
    rw [Dialogue.run_bind] at ho
    obtain ⟨selected, hs, _⟩ := Transcript.andThen_outcome_eq_ok_iff.mp ho
    rw [gather, Dialogue.run_bind] at hs
    obtain ⟨order, hw, _⟩ := Transcript.andThen_outcome_eq_ok_iff.mp hs
    exact ⟨order, Outcome.mapError_eq_ok_iff.mp hw⟩
  case pooled hw _ _ _ _ _ => exact ⟨_, congrArg _ hw⟩

theorem exists_gather_eq (hw : e.workers.compareInt? 1 = .ok order) :
    ∃ n : Int, ∀ {α : Type} (ds : List (Conversation α)),
      e.gather ds = gather { e with workers := .int n } ds := by
  by_cases ho : order = some .gt
  case pos => exact ⟨2, fun ds => by rw [gather, gather, hw, ho]; rfl⟩
  case neg =>
    refine ⟨1, fun ds => .trans ?_ (gather_eq_inTurn rfl ds).symm⟩
    rw [gather, hw]
    exact if_neg fun h => ho h.left

theorem Execution.exists_whole (hw : e.workers.compareInt? 1 = .ok order) :
    ∃ n : Int, ∀ {client criteria options outcome sent}, e.Execution client criteria options outcome sent →
      Execution { e with workers := .int n } client criteria options outcome sent := by
  by_cases hi : ∃ n, e.workers = .int n
  case pos =>
    have ⟨n, hn⟩ := hi
    exact ⟨n, fun h => hn ▸ h⟩
  case neg =>
    have ⟨n, hg⟩ := exists_gather_eq hw
    refine ⟨n, fun h => ?_⟩
    cases h
    case pooled hw _ _ _ _ _ => exact absurd ⟨_, hw⟩ hi
    case alone t ht =>
      refine .alone ?_
      rw [← ht, query, query, hg]
      rfl

end

-- Whatever the index replies to a request, as long as it always replies the same, a search that succeeds
-- also succeeds with one more code that has no selected values. It finds the same and sends nothing new.
-- No pool gets stuck.
theorem inactive_code_moves_own_facet (e : Engine) (client : Call → Except Error Value) (criteria : Value)
    (hx : Selection.AddsInactive code options.selection extended)
    (h : e.Execution (fun _ => client) criteria options (.ok result) sent) :
    let options' := { options with selection := extended }
    (∃ outcome sent', e.Execution (fun _ => client) criteria options' outcome sent') ∧
    (∀ outcome sent', e.Execution (fun _ => client) criteria options' outcome sent' →
      ∃ result', outcome = .ok result' ∧ result.Moves code result' ∧ ∀ call ∈ sent', call ∈ sent) ∧
    (∀ (workers : Nat) p, 1 < workers →
      Pool.Steps workers (fun _ => client) (Pool.start (e.siblings criteria options')) p →
      ∃ p' outcomes, Pool.Steps workers (fun _ => client) p p' ∧ p'.Finished outcomes) := by
  intro options'
  refine ⟨⟨_, _, .alone rfl⟩, fun outcome sent' h' => ?result,
    fun workers p hw _ => p.exists_finished (Nat.zero_lt_of_lt hw) _⟩
  have ⟨order, hw⟩ := h.comparable
  have ⟨n, hn⟩ := Execution.exists_whole hw
  have hv := execution_outcome rfl (hn h)
  have ⟨result', hv', hmoves⟩ := verdict_extended hx hv.symm
  obtain rfl : outcome = .ok result' := (execution_outcome rfl (hn h')).trans hv'
  have hs := execution_sent rfl (hn h)
  have hs' := execution_sent rfl (hn h')
  refine ⟨result', rfl, hmoves, fun call hc => ?_⟩
  exact hs.mem_iff.mpr <| requests_extended hx <| hs'.mem_iff.mp hc

theorem inactive_size_moves_own_facet :
    let buckets (value : String) :=
      objectOf "buckets" (.list [.object [("key", .str value), ("doc_count", .int 1)]])
    let counted : Value := .object [("size", buckets "xl"), ("brand", buckets "acme")]
    let client : Call → Except Error Value :=
      fun _ => .ok <| .object [("hits", objectOf "total" (.int 3)), ("aggregations", counted)]
    let options : SearchOptions := { selection := ⟨[("color", .list [.str "red"])], by decide⟩ }
    let extended : Selection := ⟨[("size", .list []), ("color", .list [.str "red"])], by decide⟩
    let size : FacetField := ⟨"size", [⟨"xl", .int 1⟩]⟩
    let brand : FacetField := ⟨"brand", [⟨"acme", .int 1⟩]⟩
    let result : SearchResult := { facets := [size, brand], total := 3, productIds := [] }
    let result' : SearchResult := { result with facets := [brand, size] }
    let e : Engine := { workers := .int 2 }
    Selection.AddsInactive "size" options.selection extended ∧
    ∃ sent sent', e.Execution (fun _ => client) .null options (.ok result) sent ∧
      e.Execution (fun _ => client) .null { options with selection := extended } (.ok result') sent' ∧
      result.Moves "size" result' ∧ ∀ call ∈ sent', call ∈ sent := by
  intro buckets counted client options extended size brand result result' e
  have hx : Selection.AddsInactive "size" options.selection extended := ⟨[], _, rfl, rfl⟩
  have h : e.Execution (fun _ => client) .null options (.ok result) _ := .alone rfl
  have h' : e.Execution (fun _ => client) .null { options with selection := extended } (.ok result') _ :=
    .alone rfl
  have ⟨_, hall, _⟩ := inactive_code_moves_own_facet e client .null hx h
  have ⟨_, ho, hmoves, hsent⟩ := hall _ _ h'
  cases ho
  exact ⟨hx, _, _, h, h', hmoves, hsent⟩

end Engine
end CatalogSearch
