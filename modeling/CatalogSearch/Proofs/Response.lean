import CatalogSearch.Proofs.Outcome
import CatalogSearch.Response

namespace CatalogSearch.Response

def aggregations (r : Response) : List (String × Value) :=
  match r.reply.member? "aggregations" with
  | .ok (some (.object fields)) => fields
  | _ => []

def Proper (r : Response) : Prop :=
  (r.aggregations.map (·.1)).Nodup

def facetOf? (r : Response) (registry : Registry) (code : String) : Except Error (Option FacetField) :=
  (r.aggregations.lookup code).mapM (facetField registry code)

theorem code_of_facetField (h : facetField registry code aggregation = .ok field) :
    field.code = code := by
  simp only [facetField, Outcome.bind_eq_ok_iff] at h
  obtain ⟨-, -, -, -, counts, -, h⟩ := h
  cases h
  rfl

theorem code_of_facetOf? {r : Response} (h : r.facetOf? registry code = .ok facet) :
    ∀ field ∈ facet, field.code = code := by
  unfold facetOf? at h
  cases hl : r.aggregations.lookup code
  case none =>
    rw [hl] at h
    cases h
    nofun
  case some v =>
    rw [hl] at h
    have ⟨field, hf, h⟩ := Outcome.map_eq_ok_iff.mp h
    cases h
    rintro _ ⟨⟩
    exact code_of_facetField hf

theorem codes_of_facetOf? {reply : String → Response} {codes : List String}
    (h : codes.mapM (fun code => (reply code).facetOf? registry code) = .ok found) :
    (found.reduceOption.map (·.code)).Sublist codes := by
  induction codes generalizing found
  case nil =>
    cases h
    exact .slnil
  case cons code codes hi =>
    obtain ⟨facet, found, hf, hs, rfl⟩ := Outcome.mapM_cons_eq_ok_iff.mp h
    have hc := hi hs
    cases facet
    case none       => exact .cons code hc
    case some field => exact code_of_facetOf? hf field rfl ▸ .cons_cons _ hc

def CountsByCode (r : Response) : Prop :=
  ∃ found, r.reply.member? "aggregations" = .ok found ∧
    ((found.getD .null).holds → ∃ fields, found = some (.object fields))

theorem facetFields_eq_mapM {r : Response} (h : r.CountsByCode) : r.facetFields registry without =
    (r.aggregations.filter fun a => !without.contains a.1).mapM fun a => facetField registry a.1 a.2 := by
  have ⟨found, hm, ho⟩ := h
  simp only [facetFields, aggregations, hm]
  cases found
  case none => rfl
  case some v =>
    by_cases hv : v.holds
    case pos =>
      obtain ⟨fields, ⟨⟩⟩ := ho hv
      cases fields <;> rfl
    case neg =>
      change (if v.holds then _ else Except.ok []) = _
      rw [if_neg hv]
      cases v
      case object fields =>
        obtain rfl : fields = [] := by simpa [Value.holds] using hv
        rfl
      all_goals rfl

theorem countsByCode_of_facetFields {r : Response} (h : r.facetFields registry without = .ok fields) :
    r.CountsByCode := by
  simp only [facetFields, Outcome.bind_eq_ok_iff] at h
  have ⟨found, hf, h⟩ := h
  refine ⟨found, Outcome.mapError_eq_ok_iff.mp hf, fun hv => ?_⟩
  rw [if_pos hv] at h
  cases found
  case none => cases hv
  case some v =>
    cases v
    case object fields => exact ⟨fields, rfl⟩
    all_goals cases h

theorem facetFields_eq_ok {r : Response} (h : r.facetFields registry without = .ok fields) :
    (r.aggregations.filter fun a => !without.contains a.1).mapM (fun a => facetField registry a.1 a.2) =
      .ok fields :=
  (facetFields_eq_mapM <| countsByCode_of_facetFields h).symm.trans h

theorem facetFields_less {r : Response} {without without' : List String}
    (hw : ∀ k, k ∈ without' ↔ k = code ∨ k ∈ without) (h : r.facetFields registry without = .ok fields) :
    r.facetFields registry without' = .ok (fields.filter (·.code ≠ code)) := by
  have hf := Outcome.mapM_filter (facetFields_eq_ok h) fun a field ha =>
    show decide (field.code ≠ code) = decide (a.1 ≠ code) by rw [code_of_facetField ha]
  have hp (a : String × Value) : (!without'.contains a.1) = (decide (a.1 ≠ code) && !without.contains a.1) := by
    simp [hw]
  rw [facetFields_eq_mapM <| countsByCode_of_facetFields h]
  simpa only [List.filter_filter, ← hp] using hf

theorem codes_of_facetFields {r : Response} (h : r.facetFields registry without = .ok fields) :
    fields.map (·.code) = (r.aggregations.map (·.1)).filter fun code => !without.contains code := by
  rw [Outcome.map_eq_of_mapM (facetFields_eq_ok h) fun _ _ => code_of_facetField, List.filter_map]
  rfl

theorem filter_eq_lookup {entries : List (String × α)} (h : (entries.map (·.1)).Nodup) :
    entries.filter (·.1 = key) = ((entries.lookup key).map (key, ·)).toList := by
  induction entries
  case nil => rfl
  case cons entry entries hi =>
    have ⟨k, v⟩ := entry
    have ⟨hk, hn⟩ := List.nodup_cons.mp h
    by_cases he : k = key
    case pos =>
      subst he
      have ho : ∀ e ∈ entries, ¬e.1 = k := fun e hm he => hk <| List.mem_map.mpr ⟨e, hm, he⟩
      rw [List.filter_cons_of_pos (by simp), List.filter_eq_nil_iff.mpr (by simpa using ho)]
      simp
    case neg =>
      have hb : (key == k) = false := by simp [Ne.symm he]
      simp only [List.lookup_cons, hb, ← hi hn, he, decide_false, Bool.false_eq_true, not_false_eq_true,
        List.filter_cons_of_neg]

theorem filter_facetFields {r : Response} (hr : r.Proper) (hc : code ∉ without)
    (h : r.facetFields registry without = .ok fields) :
    ∃ found, r.facetOf? registry code = .ok found ∧ fields.filter (·.code = code) = found.toList := by
  have hf := Outcome.mapM_filter (facetFields_eq_ok h) fun a field ha =>
    show decide (field.code = code) = decide (a.1 = code) by rw [code_of_facetField ha]
  have hw : ∀ a : String × Value,
      (decide (a.1 = code) && !without.contains a.1) = decide (a.1 = code) := by
    intro a
    by_cases ha : a.1 = code <;> simp [ha, hc]
  simp only [List.filter_filter, hw, filter_eq_lookup hr] at hf
  rw [facetOf?]
  cases hl : r.aggregations.lookup code
  case none =>
    rw [hl] at hf
    exact ⟨none, rfl, (Except.ok.inj hf).symm⟩
  case some v =>
    rw [hl] at hf
    have ⟨field, rest, hd, hn, he⟩ := Outcome.mapM_cons_eq_ok_iff.mp hf
    cases hn
    exact ⟨some field, congrArg (some <$> ·) hd, he⟩

end CatalogSearch.Response
