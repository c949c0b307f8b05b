import CatalogSearch.Proofs.Facet.Filter
import CatalogSearch.Query.Basic

namespace CatalogSearch

namespace Context

def ofTexts (context : OrderedMap String) : Context :=
  context.mapValues .str

theorem matches_clause_iff {context : OrderedMap String} {e : Evaluation δ} :
    (clause (ofTexts context)).Matches e d ↔ ∀ entry ∈ context.entries,
      e.holds (Atom.term entry.1 (.str entry.2)).toValue d ∨
        ¬e.holds (Atom.present entry.1).toValue d := by
  by_cases hn : context.entries = []
  case pos => simp [clause, ofTexts, OrderedMap.mapValues, OrderedMap.isEmpty, hn]
  case neg =>
    have h : (ofTexts context).isEmpty = false := by
      simp [ofTexts, OrderedMap.mapValues, OrderedMap.isEmpty, hn]
    rw [clause, h]
    simp only [Bool.false_eq_true, if_false, Clause.matches_filter, ofTexts, OrderedMap.mapValues,
      List.map_map, List.forall_mem_map]
    refine forall₂_congr fun entry _ => ?_
    simp [Operator.equality, Operator.absent, Value.text, Clause.matches_atom_iff]

end Context

namespace Recency

def Dated (r : Recency) : Prop :=
  ∃ tiers : List (Value × Value), r.tiers = .list (tiers.map fun tier => .list [tier.1, tier.2]) ∧
    ∀ tier ∈ tiers, ∃ day, startOf r.today tier.2 = .ok day

theorem Dated.exists_clauses {r : Recency} (h : r.Dated) : ∃ cs, r.clauses = .ok cs := by
  obtain ⟨tiers, ht, hd⟩ := h
  simp only [clauses, ht, Value.items]
  refine Outcome.exists_mapM_eq_ok fun v hv => ?_
  obtain ⟨tier, hm, rfl⟩ := List.mem_map.mp hv
  obtain ⟨day, hday⟩ := hd tier hm
  refine ⟨⟨r.field, tier.1, day.text ++ "T00:00:00"⟩, ?_⟩
  simp only [tierClause, tierOf, Value.items, hday, bind, Except.bind, pure, Except.pure]

end Recency

namespace Query

variable {e : Evaluation δ} {d : δ}

theorem exists_filtersClause (selection : OrderedMap (List String)) (registry : Registry) :
    ∃ c, filtersClause (.ofTexts selection) registry = .ok c := by
  have ⟨cs, hc⟩ := Selection.exists_clauses selection registry id
  cases cs <;> exact ⟨_, by rw [filtersClause, hc]; rfl⟩

theorem matches_filtersClause_iff {selection : OrderedMap (List String)}
    (h : filtersClause (.ofTexts selection) registry = .ok c) :
    c.Matches e d ↔ ∀ entry ∈ selection.entries, entry.2 ≠ [] →
      ∃ value ∈ entry.2, Selection.HasValue e d registry entry.1 value := by
  have ⟨cs, hc, h⟩ := Outcome.bind_eq_ok_iff.mp h
  rw [← Selection.matches_clauses_iff hc]
  cases cs <;> obtain rfl := Except.ok.inj h <;> simp

theorem build_eq_ok_iff {input : QueryInput} {query : Query} :
    build input = .ok query ↔
      Criteria.compile input.tuning input.criteria = .ok query.criteria ∧
      input.context.clause = query.context ∧
      filtersClause input.selection input.registry = .ok query.filters ∧
      input.boost.mapM (·.clauses) = .ok query.boost := by
  have hb : ∀ boost, input.boost.mapM (fun r => r.clauses.mapError Error.misuse) = .ok boost ↔
      input.boost.mapM (·.clauses) = .ok boost := by
    cases input.boost <;> simp [Outcome.map_eq_ok_iff, Outcome.mapError_eq_ok_iff, pure, Except.pure,
      Functor.map]
  simp only [build, Outcome.bind_eq_ok_iff, liftM, monadLift, MonadLift.monadLift,
    Outcome.mapError_eq_ok_iff, pure, Except.pure, Except.ok.injEq, hb]
  constructor
  case mp  => rintro ⟨c, hc, f, hf, b, hb, rfl⟩; exact ⟨hc, rfl, hf, hb⟩
  case mpr => exact fun ⟨hc, hx, hf, hb⟩ => ⟨_, hc, _, hf, _, hb, by rw [hx]⟩

-- The boost stands under `should` beside a `filter`, where nothing has to match.
theorem matches_toValue_iff {q : Query} :
    e.Matches d q.toValue ↔ q.criteria.Matches e d ∧ q.context.Matches e d ∧ q.filters.Matches e d := by
  rw [toValue, Evaluation.matches_bool_iff]
  have hall : (∀ p ∈ [q.criteria.Matches e d, q.context.Matches e d, q.filters.Matches e d], p) ↔
      q.criteria.Matches e d ∧ q.context.Matches e d ∧ q.filters.Matches e d := by
    rw [List.forall_mem_cons, List.forall_mem_cons, List.forall_mem_singleton]
  constructor
  case mp  => exact fun h => hall.mp <| h.filter _ rfl
  case mpr =>
    intro h
    cases q.boost
    all_goals exact {
      must    := nofun
      filter  := fun ps hp => Option.some.inj hp ▸ hall.mpr h
      mustNot := nofun
      should  := nofun }

-- A query of texts can be built, whatever its criteria that have a clause, and finds the documents that
-- match this clause, have or lack every value of the context, and have a selected value of every code.
theorem matches_built_iff (e : Evaluation δ) {criteria : Value} {sent : Clause Atom}
    {context : OrderedMap String} {selection : OrderedMap (List String)} {boost : Option Recency}
    (hc : Criteria.compile tuning criteria = .ok sent) (hb : ∀ r ∈ boost, Recency.Dated r) :
    ∃ query, build {
        criteria, registry, boost, tuning
        context   := .ofTexts context
        selection := .ofTexts selection } = .ok query ∧
      ∀ d, e.Matches d query.toValue ↔
        e.Matches d sent.toValue ∧
        (∀ entry ∈ context.entries, e.holds (Atom.term entry.1 (.str entry.2)).toValue d ∨
          ¬e.holds (Atom.present entry.1).toValue d) ∧
        (∀ entry ∈ selection.entries, entry.2 ≠ [] →
          ∃ value ∈ entry.2, Selection.HasValue e d registry entry.1 value) := by
  have ⟨filters, hf⟩ := exists_filtersClause selection registry
  have ⟨clauses, hr⟩ : ∃ clauses, boost.mapM (·.clauses) = .ok clauses := by
    cases boost
    case none   => exact ⟨none, rfl⟩
    case some r =>
      have ⟨cs, hr⟩ := (hb r rfl).exists_clauses
      exact ⟨some cs, congrArg (some <$> ·) hr⟩
  refine ⟨⟨sent, (Context.ofTexts context).clause, filters, clauses⟩, ?built, fun d => ?found⟩
  case built => exact build_eq_ok_iff.mpr ⟨hc, rfl, hf, hr⟩
  case found =>
    rw [matches_toValue_iff, Context.matches_clause_iff, matches_filtersClause_iff hf, Clause.Matches]

theorem matches_built_open_range :
    let e : Evaluation (List Atom) :=
      ⟨fun v d => v = Atom.matchAll.toValue ∨ v ∈ d.map Atom.toValue, fun _ => .inl rfl⟩
    let context : OrderedMap String := ⟨[("locale", "en")], by decide⟩
    let selection : OrderedMap (List String) :=
      ⟨[("color", ["red", "blue"]), ("size", []), ("price", ["10-*"])], by decide⟩
    let boost : Recency := {
      today := ⟨2024, 3, 31, by decide⟩
      tiers := .list [.list [.int 5, .int 1], .list [.int 4, .int 2]] }
    let input : QueryInput := {
      context := .ofTexts context, selection := .ofTexts selection
      registry := .register {} "price", boost := some boost }
    Criteria.compile {} .null = .ok .anything ∧ boost.Dated ∧ ∃ query, build input = .ok query ∧
      e.Matches [.term "color" (.str "blue"), .range "price" .gte "10"] query.toValue := by
  intro e context selection boost input
  have hc : Criteria.compile {} .null = .ok .anything := rfl
  have hd : boost.Dated := by
    have hone : Recency.startOf ⟨2024, 3, 31, by decide⟩ (.int 1) = .ok ⟨2024, 2, 29, by decide⟩ := by rfl
    have htwo : Recency.startOf ⟨2024, 3, 31, by decide⟩ (.int 2) = .ok ⟨2024, 1, 31, by decide⟩ := by rfl
    refine ⟨[(.int 5, .int 1), (.int 4, .int 2)], rfl, ?_⟩
    simp only [List.forall_mem_cons]
    exact ⟨⟨_, hone⟩, ⟨_, htwo⟩, List.forall_mem_nil _⟩
  obtain ⟨query, hq, h⟩ : ∃ query, build input = .ok query ∧ ∀ d, _ :=
    matches_built_iff e hc fun r hr => Option.some.inj hr ▸ hd
  refine ⟨hc, hd, query, hq, (h _).mpr ⟨?criteria, ?context, ?selection⟩⟩
  case criteria  => exact Clause.matches_anything
  case context   => simp [context, e, Atom.toValue, objectOf]
  case selection =>
    simp only [selection, List.forall_mem_cons]
    refine ⟨fun _ => ⟨"blue", by simp, ?_⟩, fun h => absurd rfl h, fun _ => ⟨"10-*", by simp, ?_⟩,
      List.forall_mem_nil _⟩
    · exact .inr (by simp)
    · exact { lower := fun _ => .inr (.tail _ (.head _)), upper := fun h => absurd rfl h }

end Query
end CatalogSearch
