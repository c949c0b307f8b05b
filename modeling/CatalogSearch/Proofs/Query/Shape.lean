import Mathlib.Logic.Relation
import CatalogSearch.Criteria.Tree
import CatalogSearch.Proofs.Criteria.Reading
import CatalogSearch.Proofs.Query.Filters

namespace CatalogSearch

namespace Value

def IsClause (v : Value) : Prop :=
  ∃ kind content, v = objectOf kind content

inductive Under : Value → Value → Prop
  | alone  (hm : (key, .object ms) ∈ parts) : Under (.object ms) (objectOf "bool" (.object parts))
  | listed (hm : (key, .list vs) ∈ parts) (hv : v ∈ vs) : Under v (objectOf "bool" (.object parts))

abbrev Below : Value → Value → Prop :=
  Relation.TransGen Under

inductive Filled : Value → Prop
  | one  {k : Keyword} (h : v.IsClause) : Filled (objectOf k.name v)
  | some {k : Keyword} (hn : vs ≠ []) (h : ∀ v ∈ vs, v.IsClause) : Filled (objectOf k.name (.list vs))

structure WellFormed (v : Value) : Prop where
  clause : v.IsClause
  filled : ∀ content, v = objectOf "bool" content → content.Filled

theorem Under.exists_bool (h : Under v w) : ∃ content, w = objectOf "bool" content := by
  cases h <;> exact ⟨_, rfl⟩

theorem under_single_iff :
    Under v (objectOf "bool" (objectOf key w)) ↔
      (v = w ∧ ∃ ms, w = .object ms) ∨ ∃ vs, w = .list vs ∧ v ∈ vs := by
  constructor
  case mp =>
    intro h
    cases h
    case alone hm =>
      obtain ⟨⟨⟩, rfl⟩ := Prod.mk.inj <| List.mem_singleton.mp hm
      exact .inl ⟨rfl, _, rfl⟩
    case listed hv hm =>
      obtain ⟨⟨⟩, rfl⟩ := Prod.mk.inj <| List.mem_singleton.mp hm
      exact .inr ⟨_, rfl, hv⟩
  case mpr =>
    rintro (⟨rfl, ms, rfl⟩ | ⟨vs, rfl, hv⟩)
    case inl => exact .alone (List.mem_singleton_self _)
    case inr => exact .listed (List.mem_singleton_self _) hv

end Value

theorem Atom.toValue_ne_bool (a : Atom) : a.toValue ≠ objectOf "bool" content := by
  cases a <;> simp [toValue, objectOf]

theorem RecencyClause.toValue_ne_bool (r : RecencyClause) : r.toValue ≠ objectOf "bool" content := by
  simp [toValue, objectOf]

namespace Clause

inductive Filled : Clause α → Prop
  | atom  : Filled (.atom a)
  | only  (h : Filled c) : Filled (.only k c)
  | group (hn : cs ≠ []) (h : ∀ c ∈ cs, Filled c) : Filled (.group k cs)

variable {c : Clause Atom}

theorem isClause_toValue (c : Clause Atom) : c.toValue.IsClause := by
  cases c
  case atom a => cases a <;> exact ⟨_, _, rfl⟩
  all_goals exact ⟨_, _, rfl⟩

theorem toValue_only : (only k c).toValue = objectOf "bool" (objectOf k.name c.toValue) :=
  rfl

theorem toValue_group :
    (group k cs).toValue = objectOf "bool" (objectOf k.name (.list (cs.map toValue))) := by
  simp [toValue, toValueWith, toValues_eq_map]

theorem Filled.wellFormed (h : c.Filled) : c.toValue.WellFormed := by
  refine ⟨c.isClause_toValue, fun content hb => ?_⟩
  cases h
  case atom a => exact absurd hb a.toValue_ne_bool
  case only c k h =>
    cases toValue_only.symm.trans hb
    exact .one c.isClause_toValue
  case group cs k hn h =>
    cases toValue_group.symm.trans hb
    refine .some (by simpa using hn) fun v hv => ?_
    obtain ⟨c, _, rfl⟩ := List.mem_map.mp hv
    exact c.isClause_toValue

theorem Filled.exists_of_under (h : c.Filled) (hu : Value.Under v c.toValue) :
    ∃ c' : Clause Atom, c'.Filled ∧ c'.toValue = v := by
  cases h
  case atom a =>
    obtain ⟨_, hb⟩ := hu.exists_bool
    exact absurd hb a.toValue_ne_bool
  case only c k h =>
    rw [toValue_only, Value.under_single_iff] at hu
    have ⟨ms, hc⟩ := c.toValue_object
    rcases hu with ⟨rfl, _⟩ | ⟨vs, hl, _⟩
    case inl => exact ⟨c, h, rfl⟩
    case inr => cases hc.symm.trans hl
  case group cs k hn h =>
    rw [toValue_group, Value.under_single_iff] at hu
    rcases hu with ⟨rfl, _, ⟨⟩⟩ | ⟨vs, hl, hv⟩
    cases hl
    obtain ⟨c, hc, rfl⟩ := List.mem_map.mp hv
    exact ⟨c, h c hc, rfl⟩

theorem Filled.exists_of_below (h : c.Filled) (hb : Relation.ReflTransGen Value.Under v c.toValue) :
    ∃ c' : Clause Atom, c'.Filled ∧ c'.toValue = v := by
  induction hb using Relation.ReflTransGen.head_induction_on
  case refl => exact ⟨c, h, rfl⟩
  case head hu _ hi =>
    obtain ⟨c', hc, rfl⟩ := hi
    exact hc.exists_of_under hu

theorem filled_anything : anything.Filled :=
  .only .atom

end Clause

theorem Operator.filled_clause (o : Operator) : (o.clause tuning field value).Filled := by
  cases o
  case fullText =>
    by_cases h : Phrase.isQuoted value
    all_goals simp only [clause, h, if_true, if_false, Bool.false_eq_true]
    all_goals exact .group (List.cons_ne_nil _ _) (List.forall_mem_singleton.mpr .atom)
  case mostFields => exact .group (List.cons_ne_nil _ _) (List.forall_mem_singleton.mpr .atom)
  all_goals exact .only .atom

mutual

theorem Criteria.filled_clause : ∀ c : Criteria, (c.clause tuning).Filled
  | .everything         => Clause.filled_anything
  | .leaf operator _ _  => operator.filled_clause
  | .all first rest     => .group (List.cons_ne_nil _ _) <|
    List.forall_mem_cons.mpr ⟨filled_clause first, filled_clauses rest⟩
  | .any first rest     => .group (List.cons_ne_nil _ _) <|
    List.forall_mem_cons.mpr ⟨filled_clause first, filled_clauses rest⟩

theorem Criteria.filled_clauses : ∀ cs : List Criteria, ∀ c ∈ clauses tuning cs, c.Filled
  | []      => List.forall_mem_nil _
  | c :: cs => List.forall_mem_cons.mpr ⟨filled_clause c, filled_clauses cs⟩

end

theorem Context.filled_clause (context : Context) : context.clause.Filled := by
  by_cases hn : context.entries = []
  case pos => simpa [clause, OrderedMap.isEmpty, hn] using Clause.filled_anything
  case neg =>
    have h : context.isEmpty = false := by simp [OrderedMap.isEmpty, hn]
    simp only [clause, h, Bool.false_eq_true, if_false]
    refine .group (by simpa using hn) fun c hc => ?_
    obtain ⟨entry, _, rfl⟩ := List.mem_map.mp hc
    refine .group (List.cons_ne_nil _ _) (List.forall_mem_cons.mpr ⟨.only .atom, ?_⟩)
    exact List.forall_mem_singleton.mpr (.only .atom)

theorem FacetRange.filled_clause (r : FacetRange) : (r.clause field).Filled := by
  by_cases hl : r.lower = .null
  case pos =>
    by_cases hu : r.upper = .null
    case pos => simpa only [clause, hl, hu, if_true] using Clause.filled_anything
    case neg => simpa only [clause, hl, hu, if_true, if_false] using .only .atom
  case neg =>
    by_cases hu : r.upper = .null
    case pos => simpa only [clause, hl, hu, if_true, if_false] using .only .atom
    case neg =>
      simp only [clause, hl, hu, if_false]
      refine .group (List.cons_ne_nil _ _) (List.forall_mem_cons.mpr ⟨.only .atom, ?_⟩)
      exact List.forall_mem_singleton.mpr (.only .atom)

theorem Selection.filled_textClause : (textClause registry code field value).Filled := by
  rw [textClause]
  cases registry.decode code value
  case range r => exact r.filled_clause
  case plain s => exact .only .atom

theorem Selection.filled_alternatives {entry : String × List String} (h : entry.2 ≠ []) :
    (alternatives registry entry).Filled := by
  refine .group (by simpa using h) fun c hc => ?_
  obtain ⟨value, _, rfl⟩ := List.mem_map.mp hc
  exact filled_textClause

namespace Query

theorem filled_conjunction (h : ∀ c ∈ clauses, c.Filled) : (conjunction clauses).Filled := by
  cases clauses
  case nil  => exact Clause.filled_anything
  case cons => exact .group (List.cons_ne_nil _ _) h

theorem filled_filters (h : filtersClause (.ofTexts selection) registry = .ok c) : c.Filled := by
  rw [filtersClause_eq_ok] at h
  obtain rfl := Except.ok.inj h
  refine filled_conjunction fun c hc => ?_
  obtain ⟨entry, he, rfl⟩ := List.mem_map.mp hc
  exact Selection.filled_alternatives (by simpa using List.of_mem_filter he)

def boostMembers (q : Query) : List (String × Value) :=
  q.boost.elim [] fun clauses => [("should", .list (clauses.map (·.toValue)))]

theorem toValue_eq (q : Query) : q.toValue = objectOf "bool" (.object <|
    ("filter", .list [q.criteria.toValue, q.context.toValue, q.filters.toValue]) :: q.boostMembers) := by
  rw [toValue, boostMembers]
  cases q.boost <;> rfl

theorem under_toValue {q : Query} (h : Value.Under v q.toValue) :
    (∃ c ∈ [q.criteria, q.context, q.filters], c.toValue = v) ∨
      ∃ r : RecencyClause, r.toValue = v := by
  have boost : ∀ key content, (key, content) ∈ q.boostMembers →
      ∃ clauses : List RecencyClause, content = .list (clauses.map (·.toValue)) := by
    intro key content hm
    cases hb : q.boost <;> simp [boostMembers, hb] at hm
    exact ⟨_, hm.right⟩
  rw [toValue_eq] at h
  cases h
  case alone hm =>
    rcases List.mem_cons.mp hm with h | h
    case inl => cases h
    case inr => obtain ⟨_, ⟨⟩⟩ := boost _ _ h
  case listed hv hm =>
    rcases List.mem_cons.mp hm with h | h
    case inl =>
      cases h
      exact .inl (by simpa [eq_comm] using hv)
    case inr =>
      obtain ⟨clauses, ⟨⟩⟩ := boost _ _ h
      obtain ⟨r, _, hr⟩ := List.mem_map.mp hv
      exact .inr ⟨r, hr⟩

theorem wellFormed_of_below {q : Query} (h : ∀ c ∈ [q.criteria, q.context, q.filters], c.Filled)
    (hb : Value.Below v q.toValue) : v.WellFormed := by
  obtain ⟨w, hv, hw⟩ := Relation.TransGen.tail'_iff.mp hb
  rcases under_toValue hw with ⟨c, hc, rfl⟩ | ⟨r, rfl⟩
  case inl =>
    obtain ⟨c', hf, rfl⟩ := (h c hc).exists_of_below hv
    exact hf.wellFormed
  case inr =>
    rcases Relation.ReflTransGen.cases_tail hv with rfl | ⟨u, _, hu⟩
    case inl => exact ⟨⟨_, _, rfl⟩, fun _ h => absurd h r.toValue_ne_bool⟩
    case inr =>
      have ⟨_, h⟩ := hu.exists_bool
      exact absurd h r.toValue_ne_bool

-- What is sent for a query of texts is a bool clause with three clauses under `filter`, and under `should`
-- the boost if there is one. Whatever is empty in the request, every bool clause below has one keyword with
-- a clause or some clauses under it.
theorem built_nowhere_empty {criteria : Value} {sent : Clause Atom} {boost : Option Recency}
    (context : Context) (selection : OrderedMap (List String)) (registry : Registry)
    (hc : Criteria.compile tuning criteria = .ok sent)
    (hb : ∀ r ∈ boost, ∃ clauses, r.clauses = .ok clauses) :
    ∃ query, build {
        criteria, context, registry, boost, tuning
        selection := .ofTexts selection } = .ok query ∧
      (∃ c₁ c₂ c₃ more,
        query.toValue = objectOf "bool" (.object (("filter", .list [c₁, c₂, c₃]) :: more)) ∧
        (boost = none ∧ more = [] ∨
          ∃ r clauses, boost = some r ∧ r.clauses = .ok clauses ∧
            more = [("should", .list (clauses.map (·.toValue)))])) ∧
      ∀ v, Value.Below v query.toValue → v.WellFormed := by
  have ⟨filters, hf⟩ := exists_filtersClause selection registry
  obtain ⟨more, hm, hs⟩ : ∃ more, boost.mapM (·.clauses) = .ok more ∧
      (boost = none ∧ more = none ∨
        ∃ r clauses, boost = some r ∧ r.clauses = .ok clauses ∧ more = some clauses) := by
    cases boost
    case none   => exact ⟨none, rfl, .inl ⟨rfl, rfl⟩⟩
    case some r =>
      have ⟨clauses, hr⟩ := hb r rfl
      exact ⟨some clauses, congrArg (some <$> ·) hr, .inr ⟨r, clauses, rfl, hr, rfl⟩⟩
  have hq : ∀ c ∈ [sent, context.clause, filters], c.Filled := by
    obtain ⟨c, _, rfl⟩ := Criteria.compile_eq_ok_iff.mp hc
    simp only [List.forall_mem_cons]
    exact ⟨c.filled_clause, context.filled_clause, filled_filters hf, List.forall_mem_nil _⟩
  refine ⟨⟨sent, context.clause, filters, more⟩, ?built, ⟨_, _, _, _, toValue_eq _, ?top⟩, ?below⟩
  case built => exact build_eq_ok_iff.mpr ⟨hc, rfl, hf, hm⟩
  case below => exact fun v => wellFormed_of_below hq
  case top   =>
    rcases hs with ⟨hn, rfl⟩ | ⟨r, clauses, hr, ho, rfl⟩
    case inl => exact .inl ⟨hn, rfl⟩
    case inr => exact .inr ⟨r, clauses, hr, ho, rfl⟩

theorem built_nowhere_empty_of_empty_parts :
    let tree : CriteriaTree := .anyOf [.allOf [], .criterion (.str "name") (.str "boots") (.str "FullText")]
    let sent : Clause Atom := .group .should [.anything,
      .group .should [.atom (.words ({} : Tuning).searchFields "boots" true)]]
    let selection : OrderedMap (List String) := ⟨[("color", []), ("price", ["*-*"])], by decide⟩
    let boost : Recency := { today := ⟨2024, 3, 31, by decide⟩, tiers := .list [] }
    let input : QueryInput := {
      criteria := tree.toValue, registry := .register {} "price", boost := some boost
      selection := .ofTexts selection }
    Criteria.compile {} tree.toValue = .ok sent ∧ boost.clauses = .ok [] ∧
      ∃ query, build input = .ok query ∧ ∀ v, Value.Below v query.toValue → v.WellFormed := by
  intro tree sent selection boost input
  have hs : Criteria.compile {} tree.toValue = .ok sent := by rfl
  have hb : boost.clauses = .ok [] := rfl
  obtain ⟨query, hq, _, h⟩ := built_nowhere_empty ∅ selection (.register {} "price") hs
    fun r hr => ⟨[], Option.some.inj hr ▸ hb⟩
  exact ⟨hs, hb, query, hq, h⟩

end Query
end CatalogSearch
