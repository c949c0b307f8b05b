import CatalogSearch.Engine.Basic
import CatalogSearch.Proofs.Engine.Dialogue

namespace CatalogSearch

theorem Response.reply_of_ofReply {reply : Value} {response : Response}
    (h : ofReply reply = .ok response) : response.reply = reply := by
  rw [ofReply, Outcome.bind_eq_ok_iff] at h
  obtain ⟨found, -, h⟩ := h
  split at h <;> cases h <;> rfl

theorem Findings.result_eq_ok_iff {f : Findings} {result : SearchResult} :
    f.result selected = .ok result ↔
      result.total = f.total ∧ f.response.productIds = .ok result.productIds ∧
      result.facets = f.facets ++ selected.flatten := by
  rw [Findings.result, Outcome.bind_eq_ok_iff]
  constructor
  case mp =>
    rintro ⟨ids, hi, ⟨⟩⟩
    exact ⟨rfl, hi, rfl⟩
  case mpr =>
    have ⟨facets, total, ids⟩ := result
    rintro ⟨rfl, hi, rfl⟩
    exact ⟨ids, hi, rfl⟩

theorem Findings.result_eq_error_iff {f : Findings} {cause : Misuse} :
    f.result selected = .error cause ↔ f.response.productIds = .error cause := by
  rw [Findings.result, Outcome.bind_eq_error_iff]
  exact or_iff_left <| by rintro ⟨_, _, ⟨⟩⟩

namespace Engine

variable {partner : σ → Call → Except Error Value × σ} {s : σ}

def Exchange (partner : σ → Call → Except Error Value × σ) (s : σ) (reply : Value)
    (t : Transcript σ LogLine Call α) : Prop :=
  ∃ call, t.asked = [call] ∧ (partner s call).1 = .ok reply ∧ t.state = (partner s call).2

theorem search_ok {e : Engine}
    (h : ((e.search criteria options selection).run partner s).outcome = .ok (response, total)) :
    Exchange partner s response.reply ((e.search criteria options selection).run partner s) ∧
    response.total = .ok total := by
  simp only [search, Dialogue.run_bind, Transcript.andThen_outcome_eq_ok_iff, Dialogue.run_liftM, debug,
    Dialogue.run_remark, Dialogue.run_question, Dialogue.run_pure] at h
  obtain ⟨request, hr, -, -, reply, hp, response, ho, total, ht, -, -, he⟩ := h
  cases he
  refine ⟨⟨.select request.toValue, ?asked, ?replied, ?state⟩, Outcome.mapError_eq_ok_iff.mp ht⟩
  case replied => rw [hp, Response.reply_of_ofReply ho]
  all_goals
    simp only [search, debug, Dialogue.run_bind, Transcript.andThen, Dialogue.run_liftM,
      Dialogue.run_remark, Dialogue.run_question, Dialogue.run_pure, hr, hp, ho, ht, List.nil_append,
      List.append_nil]

theorem main_ok {e : Engine} (h : ((e.main criteria options).run partner s).outcome = .ok found) :
    Exchange partner s found.response.reply ((e.main criteria options).run partner s) ∧
    found.response.total = .ok found.total ∧
    found.response.facetFields e.registry options.selection.keys = .ok found.facets := by
  simp only [main, Dialogue.run_bind, Transcript.andThen_outcome_eq_ok_iff, Dialogue.run_liftM,
    Dialogue.run_pure] at h
  have ⟨⟨response, total⟩, hs, facets, hf, he⟩ := h
  cases he
  have ⟨⟨call, ha, hp, hc⟩, ht⟩ := search_ok hs
  refine ⟨⟨call, ?asked, hp, ?state⟩, ht, hf⟩
  all_goals
    simp only [main, Dialogue.run_bind, Transcript.andThen, Dialogue.run_liftM, Dialogue.run_pure, hs,
      hf, ha, hc, List.append_nil]

theorem siblingFacets_ok {e : Engine}
    (h : ((e.siblingFacets criteria options code).run partner s).outcome = .ok fields) :
    ∃ reply all, Exchange partner s reply ((e.siblingFacets criteria options code).run partner s) ∧
      Response.facetFields ⟨reply⟩ e.registry (options.selection.erase code).keys = .ok all ∧
      fields = all.filter (·.code = code) := by
  simp only [siblingFacets, debug, Dialogue.run_bind, Transcript.andThen_outcome_eq_ok_iff,
    Dialogue.run_remark, Dialogue.run_liftM, Dialogue.run_pure] at h
  obtain ⟨-, -, ⟨response, total⟩, hs, all, hf, he⟩ := h
  have ⟨⟨call, ha, hp, hc⟩, ht⟩ := search_ok hs
  refine ⟨response.reply, all, ⟨call, ?asked, hp, ?state⟩, hf, (Except.ok.inj he).symm⟩
  all_goals
    simp only [siblingFacets, debug, Dialogue.run_bind, Transcript.andThen, Dialogue.run_remark,
      Dialogue.run_liftM, Dialogue.run_pure, hs, hf, ha, hc, List.nil_append, List.append_nil]

end Engine
end CatalogSearch
