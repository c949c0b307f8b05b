import CatalogSearch.Engine.Basic
import CatalogSearch.Proofs.Criteria.Meaning
import CatalogSearch.Proofs.Query.Filters
import Mathlib.Data.List.Nodup

namespace CatalogSearch

namespace Request

def refilter (r : Request) (filters : Clause Atom) : Request :=
  { r with query.filters := filters }

end Request

namespace Engine

variable {e : Engine} {options : SearchOptions}

theorem request_eq_ok_iff {request : Request} :
    e.request criteria options selection = .ok request ↔
      Query.build {
        criteria, selection
        context  := options.context
        registry := e.registry
        boost    := e.recency
        tuning   := e.tuning } = .ok request.query ∧
      options.page.times options.rows = .ok request.start ∧
      FacetRequest.aggregations options.facets = request.aggregations ∧
      options.rows = request.size ∧
      e.sort options = request.sort := by
  simp only [Engine.request, Outcome.bind_eq_ok_iff, liftM, monadLift, MonadLift.monadLift,
    Outcome.mapError_eq_ok_iff, pure, Except.pure, Except.ok.injEq]
  constructor
  case mp  => rintro ⟨query, hq, start, hs, rfl⟩; exact ⟨hq, hs, rfl, rfl, rfl⟩
  case mpr =>
    have ⟨query, aggregations, size, start, sort⟩ := request
    rintro ⟨hq, hs, rfl, rfl, rfl⟩
    exact ⟨query, hq, start, hs, rfl⟩

-- A selection counts for nothing but the filters.
theorem request_refilter {request : Request}
    (h : e.request criteria options selection = .ok request)
    (hf : Query.filtersClause selection' e.registry = .ok filters) :
    e.request criteria options selection' = .ok (request.refilter filters) := by
  have ⟨hq, hs, ha, hr, ho⟩ := request_eq_ok_iff.mp h
  have ⟨hc, hx, _, hb⟩ := Query.build_eq_ok_iff.mp hq
  exact request_eq_ok_iff.mpr ⟨Query.build_eq_ok_iff.mpr ⟨hc, hx, hf, hb⟩, hs, ha, hr, ho⟩

def filtersOf (e : Engine) (entries : List (String × List String)) : Clause Atom :=
  Query.conjunction (entries.map (Selection.alternatives e.registry))

variable {selection : OrderedMap (List String)} {main : Request}

theorem request_erase (h : e.request criteria options (.ofTexts selection) = .ok main) (code : String) :
    e.request criteria options ((Selection.ofTexts selection).erase code) =
      .ok (main.refilter (e.filtersOf ((Selection.active selection).filter (·.1 ≠ code)))) := by
  rw [Selection.ofTexts_erase, ← Selection.active_erase]
  exact request_refilter h (Query.filtersClause_eq_ok _ _)

theorem request_eq_refilter (h : e.request criteria options (.ofTexts selection) = .ok main) :
    main = main.refilter (e.filtersOf (Selection.active selection)) :=
  Except.ok.inj <| h.symm.trans <| request_refilter h <| Query.filtersClause_eq_ok ..

structure Wanted (e : Engine) (criteria : Value) (options : SearchOptions)
    (entries : List (String × List String)) (ev : Evaluation δ) (d : δ) : Prop where
  criteria : Criteria.TrueOf ev e.tuning d criteria
  context  : options.context.clause.Matches ev d
  selected : ∀ entry ∈ entries, ∃ value ∈ entry.2, Selection.HasValue ev d e.registry entry.1 value

theorem matches_refilter_iff {ev : Evaluation δ} {entries : List (String × List String)}
    (h : e.request criteria options selected = .ok main) :
    ev.Matches d (main.refilter (e.filtersOf entries)).query.toValue ↔
      e.Wanted criteria options entries ev d := by
  have ⟨hc, hx, _⟩ := Query.build_eq_ok_iff.mp (request_eq_ok_iff.mp h).left
  have ⟨c, hr, hs⟩ := Criteria.compile_eq_ok_iff.mp hc
  have hk : main.query.criteria.Matches ev d ↔ Criteria.TrueOf ev e.tuning d criteria :=
    hs ▸ Criteria.matches_read_iff hr
  have hf : (e.filtersOf entries).Matches ev d ↔
      ∀ entry ∈ entries, ∃ value ∈ entry.2, Selection.HasValue ev d e.registry entry.1 value := by
    rw [filtersOf, Query.matches_conjunction_iff, List.forall_mem_map]
    exact forall₂_congr fun _ _ => Selection.matches_alternatives_iff
  rw [Query.matches_toValue_iff, Request.refilter, hk, hf, ← hx]
  exact ⟨fun ⟨hc, hx, hf⟩ => ⟨hc, hx, hf⟩, fun ⟨hc, hx, hf⟩ => ⟨hc, hx, hf⟩⟩

theorem active_of_empty (hn : (code, []) ∈ selection.entries) :
    (Selection.active selection).filter (·.1 ≠ code) = Selection.active selection := by
  refine List.filter_eq_self.mpr fun (code', values) hm => decide_eq_true ?_
  rintro rfl
  have ⟨hm, hv⟩ := List.mem_filter.mp hm
  have he : (code', values) = (code', []) := List.inj_on_of_nodup_map selection.nodup hm hn rfl
  exact of_decide_eq_true hv (congrArg (·.2) he)

theorem exists_other_active (hl : 2 ≤ (Selection.active selection).length) (code : String) :
    ∃ entry ∈ Selection.active selection, entry.1 ≠ code := by
  have hn : ((Selection.active selection).map (·.1)).Nodup :=
    selection.nodup.sublist <| List.filter_sublist.map _
  match ha : Selection.active selection, hl with
  | first :: second :: rest, _ =>
    rw [ha] at hn
    by_cases hc : first.1 = code
    case neg => exact ⟨first, by simp, hc⟩
    case pos =>
      refine ⟨second, by simp, fun hs => ?_⟩
      exact (List.nodup_cons.mp hn).left (by simp [hc, hs])

theorem wanted_of_siblings {ev : Evaluation δ} (hl : 2 ≤ (Selection.active selection).length)
    (h : ∀ code ∈ selection.keys,
      e.Wanted criteria options ((Selection.active selection).filter (·.1 ≠ code)) ev d) :
    e.Wanted criteria options (Selection.active selection) ev d := by
  have hk : ∀ entry ∈ Selection.active selection, entry.1 ∈ selection.keys :=
    fun entry hm => List.mem_map_of_mem (List.mem_of_mem_filter hm)
  have ⟨first, hf, _⟩ := exists_other_active hl ""
  refine ⟨(h _ (hk first hf)).criteria, (h _ (hk first hf)).context, fun entry hm => ?_⟩
  have ⟨other, ho, hne⟩ := exists_other_active hl entry.1
  exact (h _ (hk other ho)).selected entry <| List.mem_filter.mpr ⟨hm, by simpa using hne.symm⟩

-- The request for a code is the main request but for the filters, which are those of the main request
-- less the alternatives of this code. What the main request finds, all of them find, and with two or
-- more codes nothing else is found by all of them.
theorem siblings_drop_one_filter (ev : Evaluation δ) (d : δ)
    (hs : options.selection = .ofTexts selection)
    (h : e.request criteria options options.selection = .ok main) :
    let active := Selection.active selection
    let sibling (code : String) := main.refilter (e.filtersOf (active.filter (·.1 ≠ code)))
    main.query.filters = e.filtersOf active ∧
    (∀ code, e.request criteria options (options.selection.erase code) = .ok (sibling code) ∧
      ((code, []) ∈ selection.entries → sibling code = main) ∧
      ((∀ entry ∈ active, entry.1 = code) → (sibling code).query.filters = .anything) ∧
      (ev.Matches d (sibling code).query.toValue ↔
        e.Wanted criteria options (active.filter (·.1 ≠ code)) ev d) ∧
      (ev.Matches d main.query.toValue → ev.Matches d (sibling code).query.toValue)) ∧
    (2 ≤ active.length → (∀ code ∈ options.selection.keys, ev.Matches d (sibling code).query.toValue) →
      ev.Matches d main.query.toValue) := by
  intro active sibling
  rw [hs] at h ⊢
  have hmain : main = main.refilter (e.filtersOf active) := request_eq_refilter h
  have hfound : ev.Matches d main.query.toValue ↔ e.Wanted criteria options active ev d := by
    rw [hmain]
    exact matches_refilter_iff h
  refine ⟨congrArg (·.query.filters) hmain,
    fun code => ⟨request_erase h code, fun hn => ?unchanged, fun hn => ?none, matches_refilter_iff h,
      fun hd => ?fewer⟩,
    fun hl hall => hfound.mpr <| wanted_of_siblings hl fun code hk => ?together⟩
  case unchanged =>
    simp only [sibling, active, active_of_empty hn]
    exact hmain.symm
  case none =>
    have ha : active.filter (·.1 ≠ code) = [] := List.filter_eq_nil_iff.mpr (by simpa using hn)
    simp only [sibling, ha]
    rfl
  case fewer =>
    obtain ⟨hc, hx, hv⟩ := hfound.mp hd
    exact (matches_refilter_iff h).mpr ⟨hc, hx, fun entry hm => hv entry (List.mem_of_mem_filter hm)⟩
  case together =>
    have hk : code ∈ (Selection.ofTexts selection).keys := by
      rwa [Selection.ofTexts, OrderedMap.keys_mapValues]
    exact (matches_refilter_iff h).mp (hall code hk)

theorem siblings_drop_color_or_price :
    let selection : OrderedMap (List String) :=
      ⟨[("color", ["red", "blue"]), ("size", []), ("price", ["10-*"])], by decide⟩
    let options : SearchOptions := { selection := .ofTexts selection }
    let e : Engine := { registry := .register {} "price" }
    let ev : Evaluation (List Atom) :=
      ⟨fun v d => v = Atom.matchAll.toValue ∨ v ∈ d.map Atom.toValue, fun _ => .inl rfl⟩
    ∃ main sibling, e.request .null options options.selection = .ok main ∧
      e.request .null options (options.selection.erase "size") = .ok main ∧
      e.request .null options (options.selection.erase "price") = .ok sibling ∧
      ev.Matches [.term "color" (.str "blue")] sibling.query.toValue := by
  intro selection options e ev
  obtain ⟨main, h⟩ : ∃ main, e.request .null options options.selection = .ok main := ⟨_, rfl⟩
  obtain ⟨_, hall, _⟩ := siblings_drop_one_filter ev [.term "color" (.str "blue")] rfl h
  obtain ⟨hsize, hmain, _⟩ := hall "size"
  obtain ⟨hprice, _, _, hfound, _⟩ := hall "price"
  refine ⟨main, _, h, (hmain (by simp [selection])) ▸ hsize, hprice, hfound.mpr ⟨.inl rfl, ?context, ?color⟩⟩
  case context => exact Clause.matches_anything
  case color =>
    intro entry hm
    obtain rfl : entry = ("color", ["red", "blue"]) := by simpa [Selection.active, selection] using hm
    exact ⟨"blue", by simp, .inr (by simp)⟩

end Engine
end CatalogSearch
