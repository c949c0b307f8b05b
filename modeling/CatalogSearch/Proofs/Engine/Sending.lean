import CatalogSearch.Proofs.Engine.Gathering
import CatalogSearch.Proofs.Engine.Replies
import CatalogSearch.Proofs.Engine.Siblings

namespace CatalogSearch.Engine

def plan (options : SearchOptions) : List Selection :=
  options.selection :: options.selection.keys.map options.selection.erase

def callOf (r : Request) : Call :=
  .select r.toValue

def replies (partner : σ → Call → Except Error Value × σ) : σ → List Call → List (Except Error Value)
  | _, []            => []
  | s, call :: calls => (partner s call).1 :: replies partner (partner s call).2 calls

theorem replies_length {partner : σ → Call → Except Error Value × σ} {s : σ} :
    (replies partner s calls).length = calls.length := by
  induction calls generalizing s
  case nil     => rfl
  case cons hi => rw [replies, List.length_cons, hi, List.length_cons]

variable {e : Engine} {options : SearchOptions} {partner : σ → Call → Except Error Value × σ} {s : σ}

section

variable {r : Request}

theorem search_amountsTo (hr : e.request criteria options selection = .ok r) :
    ((e.search criteria options selection).run partner s).AmountsTo [callOf r] (partner s (callOf r)).2
      (readHits (partner s (callOf r)).1) := by
  simp only [search, debug, Dialogue.run_bind]
  have hs : ((liftM (e.request criteria options selection) : Conversation Request).run partner s).AmountsTo
      [] s (.ok r) := ⟨rfl, rfl, hr⟩
  refine hs.before <| .before ⟨rfl, rfl, rfl⟩ <| .andThen ⟨rfl, rfl, rfl⟩ fun reply => ?_
  exact .andThen ⟨rfl, rfl, rfl⟩ fun response => .andThen ⟨rfl, rfl, rfl⟩ fun total =>
    .before ⟨rfl, rfl, rfl⟩ ⟨rfl, rfl, rfl⟩

theorem search_amountsTo_of_error (hr : e.request criteria options selection = .error err) :
    ((e.search criteria options selection).run partner s).AmountsTo [] s (.error err) := by
  have h : ((liftM (e.request criteria options selection) : Conversation Request).run partner s).AmountsTo
      [] s (.error err) := ⟨rfl, rfl, hr⟩
  simp only [search, Dialogue.run_bind]
  exact h.stop

theorem main_amountsTo (hr : e.request criteria options options.selection = .ok r) :
    ((e.main criteria options).run partner s).AmountsTo [callOf r] (partner s (callOf r)).2
      (e.findings options.selection (partner s (callOf r)).1) := by
  simp only [main, findings, Dialogue.run_bind]
  exact (search_amountsTo hr).andThen fun found => .andThen ⟨rfl, rfl, rfl⟩ fun facets => ⟨rfl, rfl, rfl⟩

theorem siblingFacets_amountsTo
    (hr : e.request criteria options (options.selection.erase code) = .ok r) :
    ((e.siblingFacets criteria options code).run partner s).AmountsTo [callOf r]
      (partner s (callOf r)).2
      ((e.findings (options.selection.erase code) (partner s (callOf r)).1).map (facetsOf code)) := by
  simp only [siblingFacets, debug, findings, Outcome.map_eq_bind, bind_assoc, Dialogue.run_bind]
  refine .before ⟨rfl, rfl, rfl⟩ ?_
  exact (search_amountsTo hr).andThen fun found => .andThen ⟨rfl, rfl, rfl⟩ fun facets => ⟨rfl, rfl, rfl⟩

end

section

variable {d : Conversation α} {ds : List (Conversation α)}

theorem inTurn_amountsTo_of_error (h : (d.run partner s).AmountsTo calls s' (.error err)) :
    ((inTurn (d :: ds)).run partner s).AmountsTo calls s' (.error err) := by
  simp only [inTurn, Dialogue.run_bind]
  exact h.stop

theorem inTurn_amountsTo_of_ok (h : (d.run partner s).AmountsTo calls s' (.ok x))
    (hs : ((inTurn ds).run partner s').AmountsTo calls' s'' o) :
    ((inTurn (d :: ds)).run partner s).AmountsTo (calls ++ calls') s'' (o.map (x :: ·)) := by
  simp only [inTurn, Dialogue.run_bind, Outcome.map_eq_bind]
  exact h.append <| hs.andThen fun xs => ⟨rfl, rfl, rfl⟩

theorem gather_eq_inTurn (hw : e.workers = .int 1) (ds : List (Conversation α)) :
    e.gather ds = inTurn ds := by
  rw [gather, hw]
  rfl

end

-- The first reply that is refused ends the requests for the selected codes.
theorem inTurn_siblings_amountsTo {requests : List Request}
    (hr : codes.mapM (fun code => e.request criteria options (options.selection.erase code)) =
      .ok requests) :
    let calls := requests.map callOf
    let found := e.allFindings ((codes.map options.selection.erase).zip (replies partner s calls))
    ∃ s', ((inTurn (codes.map (e.siblingFacets criteria options))).run partner s).AmountsTo
      (calls.take (Outcome.successes found + 1)) s'
      ((found.mapM id).map (List.zipWith facetsOf codes)) := by
  induction codes generalizing s requests
  case nil =>
    cases hr
    exact ⟨s, rfl, rfl, rfl⟩
  case cons code codes hi =>
    obtain ⟨r, requests, ho, hs, rfl⟩ := Outcome.mapM_cons_eq_ok_iff.mp hr
    have hd : ((e.siblingFacets criteria options code).run partner s).AmountsTo _ _ _ :=
      siblingFacets_amountsTo ho
    simp only [List.map_cons, replies, List.zip_cons_cons, allFindings_cons, List.mapM_cons, id]
    cases hf : e.findings (options.selection.erase code) (partner s (callOf r)).1
    case error err =>
      rw [hf] at hd
      exact ⟨_, inTurn_amountsTo_of_error hd⟩
    case ok f =>
      rw [hf] at hd
      have ⟨s', hrest⟩ := hi (s := (partner s (callOf r)).2) hs
      have ⟨ha, hs, ho⟩ := inTurn_amountsTo_of_ok hd hrest
      refine ⟨s', ha, hs, ho.trans ?_⟩
      generalize List.mapM id (allFindings _ _) = rest
      cases rest <;> rfl

section

variable {r : Request} {requests : List Request}

theorem query_amountsTo (hw : e.workers = .int 1)
    (hr : e.request criteria options options.selection = .ok r)
    (hs : (options.selection.keys.mapM fun code =>
      e.request criteria options (options.selection.erase code)) = .ok requests) :
    let calls := (r :: requests).map callOf
    let found := e.allFindings ((plan options).zip (replies partner s calls))
    ∃ s', ((e.query criteria options).run partner s).AmountsTo
      (calls.take (Outcome.successes found + 1)) s'
      (do let main ← e.findings options.selection (partner s (callOf r)).1
          let others ← found.tail.mapM id
          (liftM (main.result (List.zipWith facetsOf options.selection.keys others)) :
            Except Error SearchResult)) := by
  have hd : ((e.main criteria options).run partner s).AmountsTo _ _ _ := main_amountsTo hr
  simp only [query, gather_eq_inTurn hw, siblings, plan, List.map_cons, replies, Dialogue.run_bind,
    List.zip_cons_cons, allFindings_cons, List.tail_cons]
  cases hf : e.findings options.selection (partner s (callOf r)).1
  case error err =>
    rw [hf] at hd
    exact ⟨_, hd.stop⟩
  case ok f =>
    rw [hf] at hd
    have ⟨s', hrest⟩ : ∃ s', ((inTurn (options.selection.keys.map (e.siblingFacets criteria options))).run
        partner (partner s (callOf r)).2).AmountsTo _ s' _ := inTurn_siblings_amountsTo hs
    refine ⟨s', ?_⟩
    -- The other findings can be gathered first, since nothing is lost of the main ones.
    have hm : ∀ rest : Except Error (List Findings),
        (do let main ← Except.ok f
            let others ← rest
            (liftM (main.result (List.zipWith facetsOf options.selection.keys others)) :
              Except Error SearchResult)) =
          rest.map (List.zipWith facetsOf options.selection.keys) >>= fun selected =>
            (liftM (f.result selected) : Except Error SearchResult) := by
      intro rest
      cases rest <;> rfl
    rw [hm]
    exact hd.append <| hrest.andThen fun selected => ⟨rfl, rfl, rfl⟩

end

-- Once the main request has been built, no other request can fail to be built.
theorem exists_requests {r : Request} (hr : e.request criteria options options.selection = .ok r) :
    ∃ requests, (options.selection.keys.mapM fun code =>
      e.request criteria options (options.selection.erase code)) = .ok requests := by
  have ⟨_, _, hf, _⟩ := Query.build_eq_ok_iff.mp (request_eq_ok_iff.mp hr).left
  refine Outcome.exists_mapM_eq_ok fun code _ => ?_
  have ⟨filters, hf⟩ := Query.exists_filtersClause_erase hf code
  exact ⟨_, request_refilter hr hf⟩

theorem query_amountsTo_of_error (hr : e.request criteria options options.selection = .error err) :
    ((e.query criteria options).run partner s).AmountsTo [] s (.error err) := by
  simp only [query, main, Dialogue.run_bind]
  exact (search_amountsTo_of_error hr).stop.stop

theorem request_of_compile (h : Criteria.compile e.tuning criteria = .error err) :
    e.request criteria options selection = .error err := by
  simp only [Engine.request, Query.build, h]
  rfl

section

variable {main : Request} {requests : List Request} (hw : e.workers = .int 1)
  (hr : e.request criteria options options.selection = .ok main)
  (hs : (options.selection.keys.mapM fun code =>
    e.request criteria options (options.selection.erase code)) = .ok requests)

include hw hr hs

theorem query_of_refusal
    (hx : (plan options).zip (replies partner s ((main :: requests).map callOf)) =
      before ++ (selection, reply) :: after)
    (hb : ∀ exchange ∈ before, Accepted e.registry exchange)
    (h : Refuses e.registry selection reply err) :
    ((e.query criteria options).run partner s).asked =
      ((main :: requests).map callOf).take (before.length + 1) ∧
    ((e.query criteria options).run partner s).outcome = .error err := by
  obtain ⟨s', ha, _, ho⟩ : ∃ s', ((e.query criteria options).run partner s).AmountsTo _ s' _ :=
    query_amountsTo hw hr hs
  have hm : (e.allFindings ((plan options).zip (replies partner s ((main :: requests).map callOf)))).mapM
      id = .error err := allFindings_eq_error_iff.mpr ⟨before, selection, reply, after, hx, hb, h⟩
  refine ⟨?asked, ho.trans <| Outcome.bind_mapM_of_error hm⟩
  case asked => rw [ha, hx, successes_of_refusal hb h]

theorem query_of_acceptance
    (h : ∀ exchange ∈ (plan options).zip (replies partner s ((main :: requests).map callOf)),
      Accepted e.registry exchange) :
    ∃ (f : Findings) (selected : _), (partner s (callOf main)).1 = .ok f.response.reply ∧
      ((e.query criteria options).run partner s).asked = (main :: requests).map callOf ∧
      ((e.query criteria options).run partner s).outcome = liftM (f.result selected) := by
  obtain ⟨s', ha, _, ho⟩ : ∃ s', ((e.query criteria options).run partner s).AmountsTo _ s' _ :=
    query_amountsTo hw hr hs
  obtain ⟨all, hm⟩ := exists_allFindings_iff.mpr h
  obtain ⟨f, others, hf, _, rfl⟩ := Outcome.mapM_cons_eq_ok_iff.mp hm
  refine ⟨f, _, reply_of_findings hf, ?asked, ho.trans <| Outcome.bind_mapM_of_ok hm⟩
  case asked =>
    -- There is a reply to every request, and something is found in every reply.
    have hfound := (Outcome.mapM_eq_ok_iff.mp hm).symm.trans (List.map_id _)
    have hplan : options.selection.keys.length = requests.length := by
      simpa using congrArg List.length (Outcome.mapM_eq_ok_iff.mp hs)
    have hlength : requests.length = others.length := by
      simpa [allFindings, plan, replies_length, hplan] using congrArg List.length hfound.symm
    rw [ha, ← hfound, Outcome.successes_of_ok]
    exact List.take_of_length_le (by simp [hlength])

end

-- Whatever the partner does, a search sends nothing unless its main request can be built. Then all its
-- requests can be built, and they are sent in order up to the first reply that is refused. Nothing is
-- left out of a search that succeeds, and none fails for another reason than a reply.
theorem one_worker_stops_at_refusal {e : Engine} (hw : e.workers = .int 1)
    (partner : σ → Call → Except Error Value × σ) (s : σ) (criteria : Value) (options : SearchOptions) :
    let t := (e.query criteria options).run partner s
    (t.asked = [] ↔ ∃ err, e.request criteria options options.selection = .error err) ∧
    (∀ err, Criteria.compile e.tuning criteria = .error err → t.asked = [] ∧ t.outcome = .error err) ∧
    ∀ main, e.request criteria options options.selection = .ok main →
      ∃ requests, (plan options).mapM (e.request criteria options) = .ok requests ∧
        let calls := requests.map callOf
        let exchanges := (plan options).zip (replies partner s calls)
        t.asked <+: calls ∧
        (∀ before selection reply after err, exchanges = before ++ (selection, reply) :: after →
          (∀ exchange ∈ before, Accepted e.registry exchange) → Refuses e.registry selection reply err →
            t.asked = calls.take (before.length + 1) ∧ t.outcome = .error err) ∧
        (∀ result, t.outcome = .ok result → t.asked = calls) ∧
        ∀ err, t.outcome = .error err →
          (∃ before selection reply after, exchanges = before ++ (selection, reply) :: after ∧
            (∀ exchange ∈ before, Accepted e.registry exchange) ∧
            Refuses e.registry selection reply err) ∨
          t.asked = calls ∧ ∃ reply cause, (partner s (callOf main)).1 = .ok reply ∧
            Response.productIds ⟨reply⟩ = .error cause ∧ err = .misuse cause := by
  intro t
  have hunbuilt : ∀ err, e.request criteria options options.selection = .error err →
      t.asked = [] ∧ t.outcome = .error err :=
    fun err he => ⟨(query_amountsTo_of_error he).asked, (query_amountsTo_of_error he).outcome⟩
  refine ⟨⟨fun hn => ?built, fun ⟨err, he⟩ => (hunbuilt err he).left⟩,
    fun err hc => hunbuilt err (request_of_compile hc), fun main hr => ?sent⟩
  case built =>
    cases hr : e.request criteria options options.selection
    case error err => exact ⟨err, rfl⟩
    case ok main =>
      have ⟨requests, hs⟩ := exists_requests hr
      have ⟨_, ha, _, _⟩ : ∃ s', t.AmountsTo _ s' _ := query_amountsTo hw hr hs
      rw [hn] at ha
      cases ha
  case sent =>
    have ⟨requests, hs⟩ := exists_requests hr
    have hplan : (plan options).mapM (e.request criteria options) = .ok (main :: requests) :=
      Outcome.mapM_cons_eq_ok_iff.mpr ⟨main, requests, hr, by rwa [List.mapM_map], rfl⟩
    refine ⟨main :: requests, hplan, ?begun, fun _ _ _ _ _ hx hb h => query_of_refusal hw hr hs hx hb h,
      fun result ho => ?complete, fun err he => ?failed⟩
    case begun =>
      have ⟨_, ha, _, _⟩ : ∃ s', t.AmountsTo _ s' _ := query_amountsTo hw hr hs
      exact ha ▸ List.take_prefix ..
    case complete =>
      -- A search with a refused reply would have failed.
      rcases exists_refusal_or_accepted e _ with ⟨_, _, _, _, _, hx, hb, h⟩ | h
      case inl =>
        have ho' : t.outcome = .error _ := (query_of_refusal hw hr hs hx hb h).right
        rw [ho] at ho'
        cases ho'
      case inr =>
        have ⟨_, _, _, ha, _⟩ := query_of_acceptance hw hr hs h
        exact ha
    case failed =>
      rcases exists_refusal_or_accepted e _ with ⟨err', before, selection, reply, after, hx, hb, h⟩ | h
      case inl =>
        have ho : t.outcome = .error err' := (query_of_refusal hw hr hs hx hb h).right
        obtain rfl : err' = err := Except.error.inj <| ho.symm.trans he
        exact .inl ⟨before, selection, reply, after, hx, hb, h⟩
      case inr =>
        have ⟨f, selected, hf, ha, ho⟩ := query_of_acceptance hw hr hs h
        obtain ⟨cause, hc, rfl⟩ := Outcome.mapError_eq_error_iff.mp <| ho.symm.trans he
        exact .inr ⟨ha, f.response.reply, cause, hf, Findings.result_eq_error_iff.mp hc, rfl⟩

theorem one_worker_stops_at_lost_connection :
    let e : Engine := { workers := .int 1 }
    let options : SearchOptions := {
      selection := ⟨[("color", .list [.str "red"]), ("size", .list [.str "xl"])], by decide⟩ }
    let lost : Error := .connection "connection lost"
    let client := Dialogue.numbered fun n (_ : Call) => if n = 1 then .error lost else .ok (.object [])
    let t := (e.query .null options).run client 0
    e.workers = .int 1 ∧ (plan options).length = 3 ∧ t.asked.length = 2 ∧ t.outcome = .error lost := by
  intro e options lost client t
  obtain ⟨main, hr⟩ : ∃ main, e.request .null options options.selection = .ok main := ⟨_, rfl⟩
  obtain ⟨_, _, hsent⟩ := one_worker_stops_at_refusal (e := e) rfl client 0 .null options
  obtain ⟨requests, hp, _, hstop, _⟩ := hsent main hr
  have hl : requests.length = 3 := by
    simpa [plan, OrderedMap.keys, options, eq_comm] using congrArg List.length (Outcome.mapM_eq_ok_iff.mp hp)
  obtain ⟨_, _, _, rfl⟩ := List.length_eq_three.mp hl
  have ha : Accepted e.registry (options.selection, .ok (.object [])) := accepted_iff.mpr ⟨_, rfl⟩
  obtain ⟨hasked, ho⟩ := hstop [_] (options.selection.erase "color") (.error lost) [_] lost rfl
    (List.forall_mem_singleton.mpr ha) .failed
  exact ⟨rfl, rfl, congrArg List.length hasked, ho⟩

end CatalogSearch.Engine
