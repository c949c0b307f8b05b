import CatalogSearch.Proofs.Engine.Sending
import CatalogSearch.Proofs.Reply

namespace CatalogSearch.Engine

variable {e : Engine} {options : SearchOptions} {ms : Response.Members}

def decoded (e : Engine) (reply : Except Error Value) : Except Error SearchResult := do
  (liftM ((← e.findings ∅ reply).result []) : Except Error SearchResult)

theorem decoded_of_error (he : Response.IsError ms) :
    e.decoded (.ok (.object ms)) = .error (.engine (Json.text (.object ms))) := by
  have hf : e.findings ∅ (.ok (.object ms)) = .error (.engine (Json.text (.object ms))) :=
    findings_eq_error_iff.mpr <| .payload (Response.ofReply_of_error he)
  rw [decoded, hf]
  rfl

-- First the number of hits is read, then the facets, and the products last.
theorem decoded_of_not_error (he : ¬Response.IsError ms) : e.decoded (.ok (.object ms)) = (do
    let response : Response := ⟨.object ms⟩
    let total ← (liftM response.total : Except Error Int)
    let facets ← response.facetFields e.registry []
    (liftM ((⟨response, total, facets⟩ : Findings).result []) : Except Error SearchResult)) := by
  have hr : readHits (.ok (.object ms)) =
      (liftM (Response.total ⟨.object ms⟩) : Except Error Int) >>= fun total => .ok (⟨.object ms⟩, total) := by
    rw [readHits]
    change (Response.ofReply (.object ms) >>= _) = _
    rw [Response.ofReply_of_not_error he]
    rfl
  simp only [decoded, findings, hr, bind_assoc]
  rfl

theorem exists_total_iff :
    (∃ n, (liftM (Response.total ⟨.object ms⟩) : Except Error Int) = .ok n) ↔
      ∀ cause, ¬Response.TotalFault ms cause := by
  rw [← forall_congr' fun cause => not_congr Response.total_eq_error_iff, ← Outcome.exists_ok_iff]
  exact exists_congr fun n => Outcome.mapError_eq_ok_iff

theorem decoded_eq_error_iff :
    e.decoded (.ok (.object ms)) = .error err ↔ Response.ReplyFault e.registry ms err := by
  by_cases he : Response.IsError ms
  case pos =>
    rw [decoded_of_error he]
    constructor
    case mp => rintro ⟨⟩; exact .refused he
    case mpr =>
      intro h
      cases h
      case refused => rfl
      all_goals contradiction
  case neg =>
    rw [decoded_of_not_error he]
    simp only [Outcome.bind_eq_error_iff, Outcome.liftM_eq_error_iff, Response.total_eq_error_iff,
      Response.facetFields_eq_error_iff, Findings.result_eq_error_iff]
    constructor
    case mp =>
      rintro (⟨cause, hc, rfl⟩ | ⟨total, ht, hf | ⟨facets, hf, cause, hp, rfl⟩⟩)
      · exact .total he hc
      · exact .facets he (exists_total_iff.mp ⟨total, ht⟩) hf
      · have ht := exists_total_iff.mp ⟨total, ht⟩
        have hf : ∀ err, ¬Response.FacetsFault e.registry ms err :=
          fun err h => nomatch hf.symm.trans (Response.facetFields_eq_error_iff.mpr h)
        exact .products he ht hf ((Response.productIds_eq_error_iff ht).mp hp)
    case mpr =>
      intro h
      cases h
      case refused he' => exact absurd he' he
      case total hc    => exact .inl ⟨_, hc, rfl⟩
      case facets ht hf =>
        obtain ⟨total, ht⟩ := exists_total_iff.mpr ht
        exact .inr ⟨total, ht, .inl hf⟩
      case products ht hf hp =>
        obtain ⟨total, hn⟩ := exists_total_iff.mpr ht
        obtain ⟨facets, hf⟩ : ∃ fields, Response.facetFields ⟨.object ms⟩ e.registry [] = .ok fields :=
          Outcome.exists_ok_iff.mpr fun err h => hf err (Response.facetFields_eq_error_iff.mp h)
        exact .inr ⟨total, hn, .inr ⟨facets, hf, _, (Response.productIds_eq_error_iff ht).mpr hp, rfl⟩⟩

-- Why a search without selected values fails: its request cannot be built, or nothing is found in the reply.
inductive SearchFault (e : Engine) (criteria : Value) (options : SearchOptions) (ms : Response.Members) :
    Error → Prop
  | request (hr : e.request criteria options options.selection = .error err) :
    SearchFault e criteria options ms err
  | reply (hr : e.request criteria options options.selection = .ok r)
    (hf : Response.ReplyFault e.registry ms err) : SearchFault e criteria options ms err

section

variable {partner : σ → Call → Except Error Value × σ} {s : σ} {r : Request}

-- Without selected values nothing is asked but the main request.
theorem query_amountsTo_of_unselected (hw : e.workers = .int n) (hs : options.selection = ∅)
    (hr : e.request criteria options options.selection = .ok r) :
    ((e.query criteria options).run partner s).AmountsTo [callOf r] (partner s (callOf r)).2
      (e.decoded (partner s (callOf r)).1) := by
  have hg : e.gather (e.siblings criteria options) = pure [] := by
    rw [siblings, hs]
    rcases gather_of_int hw ([] : List (Conversation (List FacetField))) with hg | hg
    all_goals exact hg.trans rfl
  have hm : ((e.main criteria options).run partner s).AmountsTo [callOf r] (partner s (callOf r)).2
      (e.findings options.selection (partner s (callOf r)).1) := main_amountsTo hr
  simp only [query, hg, Dialogue.run_bind, decoded]
  exact hs ▸ hm.andThen fun found => .before ⟨rfl, rfl, rfl⟩ ⟨rfl, rfl, rfl⟩

theorem query_outcome_of_unselected (hw : e.workers = .int n) (hs : options.selection = ∅)
    (hp : ∀ s body, (partner s (.select body)).1 = .ok (.object ms)) :
    ((e.query criteria options).run partner s).outcome =
      e.request criteria options options.selection >>= fun _ => e.decoded (.ok (.object ms)) := by
  cases hr : e.request criteria options options.selection
  case error => exact (query_amountsTo_of_error hr).outcome
  case ok r =>
    rw [(query_amountsTo_of_unselected hw hs hr).outcome, callOf, hp]
    rfl

theorem query_eq_error_iff (hw : e.workers = .int n) (hs : options.selection = ∅)
    (hp : ∀ s body, (partner s (.select body)).1 = .ok (.object ms)) :
    ((e.query criteria options).run partner s).outcome = .error err ↔
      SearchFault e criteria options ms err := by
  rw [query_outcome_of_unselected hw hs hp, Outcome.bind_eq_error_iff]
  simp only [decoded_eq_error_iff]
  constructor
  case mp =>
    rintro (hr | ⟨r, hr, hf⟩)
    case inl => exact .request hr
    case inr => exact .reply hr hf
  case mpr =>
    rintro (hr | ⟨hr, hf⟩)
    case request => exact .inl hr
    case reply   => exact .inr ⟨_, hr, hf⟩

end

theorem error_of_compile {tuning : Tuning} (h : Criteria.compile tuning criteria = .error err) :
    (∃ cause, err = .compile cause) ∨ ∃ cause, err = .misuse cause := by
  have h := Outcome.map_eq_error_iff.mp h
  unfold Criteria.ofValue at h
  split at h
  case h_1 => cases h
  case h_2 => cases h
  case h_3 =>
    obtain ⟨cause, _, rfl⟩ := Outcome.mapError_eq_error_iff.mp h
    exact .inl ⟨cause, rfl⟩
  case h_4 => cases h; exact .inr ⟨_, rfl⟩

theorem error_of_build {input : QueryInput} (h : Query.build input = .error err) :
    (∃ cause, err = .compile cause) ∨ ∃ cause, err = .misuse cause := by
  rw [Query.build] at h
  rcases Outcome.bind_eq_error_iff.mp h with h | ⟨criteria, _, h⟩
  case inl => exact error_of_compile h
  rcases Outcome.bind_eq_error_iff.mp h with h | ⟨filters, _, h⟩
  case inl =>
    obtain ⟨cause, _, rfl⟩ := Outcome.liftM_eq_error_iff.mp h
    exact .inr ⟨cause, rfl⟩
  rcases Outcome.bind_eq_error_iff.mp h with h | ⟨boost, _, ⟨⟩⟩
  cases hb : input.boost
  case none => rw [hb] at h; cases h
  case some r =>
    rw [hb] at h
    have h : (some <$> (liftM r.clauses : Except Error (List RecencyClause))) = .error err := h
    cases hc : r.clauses
    case ok    => rw [hc] at h; cases h
    case error => rw [hc] at h; cases h; exact .inr ⟨_, rfl⟩

theorem error_of_request (h : e.request criteria options selection = .error err) :
    (∃ cause, err = .compile cause) ∨ ∃ cause, err = .misuse cause := by
  rw [Engine.request] at h
  rcases Outcome.bind_eq_error_iff.mp h with h | ⟨query, _, h⟩
  case inl => exact error_of_build h
  rcases Outcome.bind_eq_error_iff.mp h with h | ⟨start, _, ⟨⟩⟩
  obtain ⟨cause, _, rfl⟩ := Outcome.liftM_eq_error_iff.mp h
  exact .inr ⟨cause, rfl⟩

theorem SearchFault.kind_or_misuse (h : SearchFault e criteria options ms err) :
    err.kind?.isSome ∨ ∃ cause, err = .misuse cause := by
  cases h
  case request hr =>
    rcases error_of_request hr with ⟨cause, rfl⟩ | hm
    case inl => exact .inl (Error.kind_compile cause)
    case inr => exact .inr hm
  case reply hf =>
    cases hf.fromIndex
    case misuse cause => exact .inr ⟨cause, rfl⟩
    all_goals exact .inl rfl

end CatalogSearch.Engine
