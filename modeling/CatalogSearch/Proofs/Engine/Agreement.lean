import CatalogSearch.Proofs.Engine.Execution
import CatalogSearch.Proofs.Engine.Search

namespace CatalogSearch.Engine

section

variable (e : Engine) (client : Call → Except Error Value) (criteria : Value) (options : SearchOptions)

-- Why a search fails: for the main request, else for the first of the other requests in the order of
-- selection that fails, else for the products of the main reply.
inductive FailsWith : Error → Prop
  | main (h : ((e.main criteria options).against client).outcome = .error err) : FailsWith err
  | sibling (hm : ((e.main criteria options).against client).outcome = .ok found)
    (hk : options.selection.keys = before ++ code :: after)
    (hb : ∀ c ∈ before, ∃ fields,
      ((e.siblingFacets criteria options c).against client).outcome = .ok fields)
    (h : ((e.siblingFacets criteria options code).against client).outcome = .error err) : FailsWith err
  | products (hm : ((e.main criteria options).against client).outcome = .ok found)
    (hs : ∀ c ∈ options.selection.keys, ∃ fields,
      ((e.siblingFacets criteria options c).against client).outcome = .ok fields)
    (h : found.response.productIds = .error cause) : FailsWith cause

def verdict : Except Error SearchResult := do
  let found ← ((e.main criteria options).against client).outcome
  let selected ← options.selection.keys.mapM fun code =>
    ((e.siblingFacets criteria options code).against client).outcome
  found.result selected

def requests : List Call :=
  ((e.main criteria options).against client).asked ++
    options.selection.keys.flatMap fun code =>
      ((e.siblingFacets criteria options code).against client).asked

end

variable {e : Engine} {client : Call → Except Error Value} {criteria : Value} {options : SearchOptions}

theorem verdict_eq_error_iff :
    e.verdict client criteria options = .error err ↔ e.FailsWith client criteria options err := by
  simp only [verdict, Outcome.bind_eq_error_iff, Outcome.mapM_eq_error_iff]
  constructor
  case mp =>
    rintro (hm | ⟨found, hm, ⟨before, code, after, hk, hb, h⟩ | ⟨selected, hs, hr⟩⟩)
    · exact .main hm
    · exact .sibling hm hk hb h
    · obtain ⟨cause, h, rfl⟩ := Outcome.mapError_eq_error_iff.mp hr
      have hs := Outcome.mapM_eq_ok_iff.mp hs
      refine .products hm (fun code hc => ?_) (Findings.result_eq_error_iff.mp h)
      have ⟨fields, _, hf⟩ := Outcome.exists_outcome_of_mem hs hc
      exact ⟨fields, hf⟩
  case mpr =>
    rintro (hm | ⟨hm, hk, hb, h⟩ | ⟨hm, hs, h⟩)
    · exact .inl hm
    · exact .inr ⟨_, hm, .inl ⟨_, _, _, hk, hb, h⟩⟩
    · have ⟨selected, hs⟩ := Outcome.exists_mapM_eq_ok hs
      refine .inr ⟨_, hm, .inr ⟨selected, hs, ?_⟩⟩
      exact Outcome.mapError_eq_error_iff.mpr ⟨_, Findings.result_eq_error_iff.mpr h, rfl⟩

theorem query_outcome (hw : e.workers = .int n) :
    ((e.query criteria options).against client).outcome = e.verdict client criteria options := by
  simp only [query, Dialogue.against_bind, Transcript.andThen_outcome, Dialogue.against_liftM,
    gather_outcome client hw, siblings, List.mapM_map]
  rfl

theorem query_asked (hw : e.workers = .int n)
    (h : ((e.query criteria options).against client).outcome = .ok result) :
    ((e.query criteria options).against client).asked = e.requests client criteria options := by
  simp only [query, Dialogue.against_bind, Transcript.andThen_outcome_eq_ok_iff] at h
  obtain ⟨found, hm, selected, hs, hr⟩ := h
  simp only [query, Dialogue.against_bind, Transcript.andThen, hm, hs, Dialogue.against_liftM,
    gather_asked client hw hs, List.append_nil]
  rw [siblings, List.flatMap_map, requests]

theorem requests_length (h : e.verdict client criteria options = .ok result) :
    (e.requests client criteria options).length = options.selection.keys.length + 1 := by
  have ⟨found, hm, h⟩ := Outcome.bind_eq_ok_iff.mp h
  obtain ⟨selected, hs, -⟩ := Outcome.bind_eq_ok_iff.mp h
  have ⟨⟨call, ha, _⟩, _⟩ := main_ok hm
  have hmain : ((e.main criteria options).against client).asked.length = 1 := congrArg List.length ha
  have hone : ∀ code ∈ options.selection.keys,
      ((e.siblingFacets criteria options code).against client).asked.length = 1 := by
    intro code hc
    have ⟨fields, _, hf⟩ := Outcome.exists_outcome_of_mem (Outcome.mapM_eq_ok_iff.mp hs) hc
    have ⟨_, _, ⟨call, ha, _⟩, _⟩ := siblingFacets_ok hf
    exact congrArg List.length ha
  rw [requests, List.length_append, List.length_flatMap, List.map_congr_left hone, hmain]
  simp [Nat.add_comm]

theorem execution_outcome (hw : e.workers = .int n)
    (h : e.Execution (fun _ => client) criteria options outcome sent) :
    outcome = e.verdict client criteria options := by
  cases h
  case alone t ht => exact ht ▸ (Dialogue.run_numbered client _ _).left.trans (query_outcome hw)
  case pooled found p outcomes workers hw' hl hk hm hs hf =>
    rw [verdict, hm, (hs.finished_alike hf).left, siblings, List.mapM_map, List.mapM_map]
    rfl

theorem execution_sent (hw : e.workers = .int n)
    (h : e.Execution (fun _ => client) criteria options (.ok result) sent) :
    sent.Perm (e.requests client criteria options) := by
  generalize ho : Except.ok result = outcome at h
  cases h
  case alone t ht =>
    have ⟨hr, ha⟩ := Dialogue.run_numbered client (e.query criteria options) 0
    rw [ht] at hr ha
    rw [ha, query_asked hw (hr.symm.trans ho.symm)]
  case pooled found p outcomes workers hw' hl hk hm hs hf =>
    have hp := (hs.finished_alike hf).right
    rw [siblings, List.flatMap_map] at hp
    exact hp.append_left _

-- Whatever the client, and in whatever order the workers proceed, several workers come to what one
-- worker comes to. They never get stuck.
theorem several_workers_agree (e : Engine) (client : Call → Except Error Value) (criteria : Value)
    (options : SearchOptions) {workers : Nat} (hw : 1 < workers) :
    let one := ({ e with workers := .int 1 }.query criteria options).against client
    (∀ outcome sent,
      Execution { e with workers := .int workers } (fun _ => client) criteria options outcome sent →
        outcome = one.outcome ∧
        ∀ result, outcome = .ok result →
          sent.Perm one.asked ∧ sent.length = options.selection.keys.length + 1) ∧
    (∀ err, one.outcome = .error err ↔ e.FailsWith client criteria options err) ∧
    (∀ p, Pool.Steps workers (fun _ => client) (Pool.start (e.siblings criteria options)) p →
      ∃ p' outcomes, Pool.Steps workers (fun _ => client) p p' ∧ p'.Finished outcomes) := by
  intro one
  have hv : one.outcome = e.verdict client criteria options := query_outcome (n := 1) rfl
  refine ⟨fun outcome sent h => ⟨?outcome, ?sent⟩, ?fails, fun p _ => ?finished⟩
  case outcome  => exact (execution_outcome rfl h).trans hv.symm
  case sent =>
    rintro result rfl
    have ho : one.outcome = .ok result := ((execution_outcome rfl h).trans hv.symm).symm
    have ha : one.asked = e.requests client criteria options := query_asked (n := 1) rfl ho
    have hp := execution_sent rfl h
    exact ⟨ha ▸ hp, hp.length_eq.trans <| requests_length (hv ▸ ho)⟩
  case fails    => exact fun err => hv ▸ verdict_eq_error_iff
  case finished => exact p.exists_finished (Nat.zero_lt_of_lt hw) _

theorem two_workers_agree :
    let options : SearchOptions := {
      selection := ⟨[("color", .list [.str "red"]), ("size", .list [.str "xl"])], by decide⟩ }
    let reply := objectOf "hits" (objectOf "total" (.int 3))
    let client : Call → Except Error Value := fun _ => .ok reply
    let result : SearchResult := { facets := [], total := 3, productIds := [] }
    1 < 2 ∧ ∃ p outcomes, p.Finished outcomes ∧
      Pool.Steps 2 (fun _ => client) (Pool.start (siblings {} .null options)) p ∧
      ∃ sent, Execution { workers := .int 2 } (fun _ => client) .null options (.ok result) sent ∧
        sent.length = 3 := by
  intro options reply client result
  have ⟨hall, _, hend⟩ := several_workers_agree {} client .null options (show 1 < 2 by decide)
  have ⟨p, outcomes, hs, hf⟩ := hend _ .refl
  let found : Findings := { response := ⟨reply⟩, total := 3, facets := [] }
  have hm : ((main { workers := .int 2 } .null options).against client).outcome = .ok found := rfl
  have h : Execution { workers := .int 2 } (fun _ => client) .null options _ _ :=
    .pooled rfl (by decide) (by decide) hm hs hf
  have ⟨ho, hl⟩ := hall _ _ h
  rw [ho] at h hl
  exact ⟨by decide, p, outcomes, hf, hs, _, h, (hl result rfl).right⟩

end CatalogSearch.Engine
