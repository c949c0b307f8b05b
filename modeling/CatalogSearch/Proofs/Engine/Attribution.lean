import CatalogSearch.Proofs.Engine.Execution
import CatalogSearch.Proofs.Engine.Search
import CatalogSearch.Proofs.Response

namespace CatalogSearch.Engine

def scripted (options : SearchOptions) (main : Value) (sibling : String → Value) :
    Nat → Call → Except Error Value
  | 0, _     => .ok main
  | i + 1, _ =>
    match options.selection.keys[i]? with
    | some code => .ok (sibling code)
    | none      => .error <| .connection "no reply"

def Replies (client : Nat → Call → Except Error Value) (n : Nat) (codes : List String)
    (reply : String → Value) : Prop :=
  ∀ i code, codes[i]? = some code → ∀ call, client (i + n) call = .ok (reply code)

theorem Replies.head (h : Replies client n (code :: codes) reply) (call : Call) :
    client n call = .ok (reply code) := by
  simpa using h 0 code rfl call

theorem Replies.tail (h : Replies client n (code :: codes) reply) :
    Replies client (n + 1) codes reply := by
  intro i c hm call
  rw [← Nat.add_assoc, Nat.add_right_comm]
  exact h (i + 1) c hm call

theorem replies_scripted (options : SearchOptions) (main : Value) (sibling : String → Value) :
    Replies (scripted options main sibling) 1 options.selection.keys sibling := by
  intro i code hm call
  simp [scripted, hm]

def Counts (e : Engine) (options : SearchOptions) (reply : String → Value) (code : String)
    (fields : List FacetField) : Prop :=
  ∃ all, Response.facetFields ⟨reply code⟩ e.registry (options.selection.erase code).keys = .ok all ∧
    fields = all.filter (·.code = code)

section

variable {e : Engine} {options : SearchOptions} {reply : String → Value}
  {client : Nat → Call → Except Error Value}

theorem counts_of_siblingFacets {partner : σ → Call → Except Error Value × σ}
    (hp : ∀ call, (partner s call).1 = .ok (reply code))
    (h : ((e.siblingFacets criteria options code).run partner s).outcome = .ok fields) :
    e.Counts options reply code fields := by
  obtain ⟨r, all, ⟨call, -, hr, -⟩, ha, hf⟩ := siblingFacets_ok h
  obtain rfl := Except.ok.inj <| (hp call).symm.trans hr
  exact ⟨all, ha, hf⟩

theorem counts_of_inTurn (hr : Replies client n codes reply)
    (h : ((inTurn (codes.map (e.siblingFacets criteria options))).run
      (Dialogue.numbered client) n).outcome = .ok selected) :
    List.Forall₂ (e.Counts options reply) codes selected := by
  induction codes generalizing n selected
  case nil =>
    cases h
    exact .nil
  case cons code codes hi =>
    simp only [List.map_cons, inTurn, Dialogue.run_bind, Transcript.andThen_outcome_eq_ok_iff,
      Dialogue.run_pure] at h
    obtain ⟨fields, hf, rest, hs, he⟩ := h
    cases he
    obtain ⟨-, -, ⟨call, -, -, hc⟩, -⟩ := siblingFacets_ok hf
    rw [hc] at hs
    exact .cons (counts_of_siblingFacets hr.head hf) <| hi hr.tail hs

theorem counts_of_pool (hr : Replies client n codes reply)
    (h : ((codes.map (e.siblingFacets criteria options)).mapIdx fun i d =>
      (d.against (client (i + n))).outcome).mapM id = .ok selected) :
    List.Forall₂ (e.Counts options reply) codes selected := by
  induction codes generalizing n selected
  case nil =>
    cases h
    exact .nil
  case cons code codes hi =>
    simp only [List.map_cons, List.mapIdx_cons] at h
    obtain ⟨fields, rest, hf, hs, rfl⟩ := Outcome.mapM_cons_eq_ok_iff.mp h
    have hn : ∀ i, i + 1 + n = i + (n + 1) := fun i => Nat.add_right_comm i 1 n
    rw [Nat.zero_add] at hf
    simp only [hn] at hs
    exact .cons (counts_of_siblingFacets hr.head hf) <| hi hr.tail hs

theorem exists_facets_of_counts (hp : ∀ code ∈ codes, Response.Proper ⟨reply code⟩)
    (h : List.Forall₂ (e.Counts options reply) codes selected) :
    ∃ found, codes.mapM (fun code => Response.facetOf? ⟨reply code⟩ e.registry code) = .ok found ∧
      selected.flatten = found.reduceOption := by
  induction h
  case nil => exact ⟨[], rfl, rfl⟩
  case cons code fields codes selected hc hs hi =>
    have ⟨hp₀, hp⟩ := List.forall_mem_cons.mp hp
    obtain ⟨all, ha, rfl⟩ := hc
    have hn : code ∉ (options.selection.erase code).keys := by simp
    have ⟨facet, hf, he⟩ := Response.filter_facetFields hp₀ hn ha
    have ⟨found, hm, hs⟩ := hi hp
    refine ⟨facet :: found, Outcome.mapM_cons_eq_ok_iff.mpr ⟨facet, found, hf, hm, rfl⟩, ?_⟩
    rw [List.flatten_cons, he, hs]
    cases facet <;> rfl

end

theorem Execution.parts {e : Engine} {options : SearchOptions} {main : Value} {sibling : String → Value}
    (h : e.Execution (scripted options main sibling) criteria options (.ok result) sent) :
    ∃ (found : Findings) (selected : _), found.response.reply = main ∧
      found.response.total = .ok found.total ∧
      found.response.facetFields e.registry options.selection.keys = .ok found.facets ∧
      List.Forall₂ (e.Counts options sibling) options.selection.keys selected ∧
      found.result selected = .ok result := by
  have hr := replies_scripted options main sibling
  generalize ho : Except.ok result = outcome at h
  cases h
  case alone t ht =>
    have ⟨found, selected, hm, hs, hf⟩ := query_ok (ht ▸ ho.symm)
    have ⟨⟨call, ha, hp, hc⟩, ht, hd⟩ := main_ok hm
    exact ⟨found, selected, (Except.ok.inj hp).symm, ht, hd, counts_of_inTurn hr (hc ▸ hs), hf⟩
  case pooled found p outcomes workers hw hl hk hm hs hf =>
    have ⟨selected, hg, hr'⟩ := Outcome.bind_eq_ok_iff.mp ho.symm
    have ⟨⟨call, ha, hp, hc⟩, ht, hd⟩ := main_ok hm
    rw [(hs.finished hf).left, siblings] at hg
    exact ⟨found, selected, (Except.ok.inj hp).symm, ht, hd, counts_of_pool hr hg,
      Outcome.mapError_eq_ok_iff.mp hr'⟩

-- No facet is taken from the reply to another request than the one it belongs to.
theorem facets_attributed {e : Engine} {options : SearchOptions} {main : Value}
    {sibling : String → Value} (hm : Response.Proper ⟨main⟩)
    (hs : ∀ code ∈ options.selection.keys, Response.Proper ⟨sibling code⟩)
    (h : e.Execution (scripted options main sibling) criteria options (.ok result) sent) :
    let codes := options.selection.keys
    Response.total ⟨main⟩ = .ok result.total ∧
    Response.productIds ⟨main⟩ = .ok result.productIds ∧
    (∃ own found,
      ((Response.aggregations ⟨main⟩).filter fun a => !codes.contains a.1).mapM
        (fun a => Response.facetField e.registry a.1 a.2) = .ok own ∧
      codes.mapM (fun code => Response.facetOf? ⟨sibling code⟩ e.registry code) = .ok found ∧
      result.facets = own ++ found.reduceOption ∧
      (∀ field ∈ own, field.code ∉ codes) ∧
      List.Forall₂ (fun code facet => ∀ field ∈ facet, field.code = code) codes found) ∧
    (result.facets.map (·.code)).Nodup := by
  intro codes
  have ⟨⟨⟨_⟩, total, own⟩, selected, rfl, ht, ho, hc, hr⟩ := h.parts
  have ⟨hrt, hi, hrf⟩ := Findings.result_eq_ok_iff.mp hr
  have ⟨found, hf, he⟩ := exists_facets_of_counts hs hc
  have hown := Response.codes_of_facetFields ho
  have hsub := Response.codes_of_facetOf? hf
  have hout : ∀ field ∈ own, field.code ∉ codes := by
    intro field hm
    have hm : field.code ∈ own.map (·.code) := List.mem_map_of_mem hm
    rw [hown] at hm
    simpa [codes] using (List.mem_filter.mp hm).right
  refine ⟨hrt ▸ ht, hi, ⟨own, found, Response.facetFields_eq_ok ho, hf, he ▸ hrf, hout, ?codes⟩, ?nodup⟩
  case codes => exact (Outcome.forall₂_of_mapM hf).imp fun _ _ => Response.code_of_facetOf?
  case nodup =>
    -- The main reply gives no field of a selected code, and the others give no other ones.
    rw [hrf, he, List.map_append, List.nodup_append]
    refine ⟨hown ▸ hm.filter _, options.selection.nodup.sublist hsub, fun c hc d hd hcd => ?_⟩
    obtain ⟨field, hfield, rfl⟩ := List.mem_map.mp hc
    exact hout field hfield <| hcd ▸ hsub.subset hd

theorem facets_attributed_color_and_size :
    let options : SearchOptions := {
      selection := ⟨[("color", .list [.str "red"]), ("size", .list [])], by decide⟩ }
    let main : Value := .object [
      ("hits", .object [
        ("total", .int 1), ("hits", .list [objectOf "_source" (objectOf "product_id" (.str "p"))])]),
      ("aggregations", .object [
        ("color", objectOf "buckets" (.list [.object [("key", .str "red"), ("doc_count", .int 1)]])),
        ("brand", objectOf "buckets" (.list [.object [("key", .str "acme"), ("doc_count", .int 1)]]))])]
    let sibling (code : String) : Value :=
      if code = "color" then objectOf "aggregations" (.object [
        ("brand", objectOf "buckets" (.list [.object [("key", .str "other"), ("doc_count", .int 7)]])),
        ("color", objectOf "buckets" (.list [.object [("key", .str "blue"), ("doc_count", .int 2)]]))])
      else .object []
    let result : SearchResult := {
      total := 1, productIds := ["p"]
      facets := [⟨"brand", [⟨"acme", .int 1⟩]⟩, ⟨"color", [⟨"blue", .int 2⟩]⟩] }
    Response.Proper ⟨main⟩ ∧ (∀ code ∈ options.selection.keys, Response.Proper ⟨sibling code⟩) ∧
      (∃ sent, Execution {} (scripted options main sibling) .null options (.ok result) sent) ∧
      Response.productIds ⟨main⟩ = .ok result.productIds ∧ (result.facets.map (·.code)).Nodup := by
  intro options main sibling result
  have hm : Response.Proper ⟨main⟩ := show ["color", "brand"].Nodup by decide
  have hs : ∀ code ∈ options.selection.keys, Response.Proper ⟨sibling code⟩ := by
    refine List.forall_mem_cons.mpr ⟨?color, List.forall_mem_cons.mpr ⟨?size, nofun⟩⟩
    case color => exact show ["brand", "color"].Nodup by decide
    case size  => exact .nil
  have h : Execution {} (scripted options main sibling) .null options (.ok result) _ := .alone rfl
  have ⟨_, hi, _, hn⟩ := facets_attributed hm hs h
  exact ⟨hm, hs, ⟨_, h⟩, hi, hn⟩

end CatalogSearch.Engine
