import CatalogSearch.Clause.Operator

namespace CatalogSearch

-- How an index judges the documents by clauses that are no bool clauses.
structure Evaluation (δ : Type) where
  holds    : Value → δ → Prop
  matchAll : ∀ d, holds Atom.matchAll.toValue d

abbrev Verdicts := List (String × List Prop)

-- The rule for bool clauses. Clauses under `should` only count where no others have to match.
structure Verdicts.Pass (vs : Verdicts) : Prop where
  must    : ∀ ps ∈ vs.lookup "must", ∀ p ∈ ps, p
  filter  : ∀ ps ∈ vs.lookup "filter", ∀ p ∈ ps, p
  mustNot : ∀ ps ∈ vs.lookup "must_not", ∀ p ∈ ps, ¬p
  should  : vs.lookup "must" = none → vs.lookup "filter" = none → ∀ ps ∈ vs.lookup "should", ∃ p ∈ ps, p

def Keyword.Asks : Keyword → List Prop → Prop
  | must, ps | filter, ps => ∀ p ∈ ps, p
  | should, ps            => ∃ p ∈ ps, p
  | mustNot, ps           => ∀ p ∈ ps, ¬p

theorem Verdicts.pass_single_iff {ps : List Prop} : Pass [(k.name, ps)] ↔ Keyword.Asks k ps := by
  constructor
  case mp =>
    intro h
    cases k
    case must    => exact h.must ps rfl
    case filter  => exact h.filter ps rfl
    case mustNot => exact h.mustNot ps rfl
    case should  => exact h.should rfl rfl ps rfl
  case mpr =>
    intro h
    cases k
    all_goals
      constructor <;> simp [Keyword.name, List.lookup_cons]
      exact h

namespace Evaluation

mutual

def Matches (e : Evaluation δ) (d : δ) : Value → Prop
  | .object [(name, .object parts)] =>
    if name = "bool" then (e.verdicts d parts).Pass else e.holds (.object [(name, .object parts)]) d
  | v => e.holds v d

def verdicts (e : Evaluation δ) (d : δ) : List (String × Value) → Verdicts
  | []                       => []
  | (key, .list vs) :: parts => (key, e.verdictsOn d vs) :: e.verdicts d parts
  | (key, v) :: parts        => (key, [e.Matches d v]) :: e.verdicts d parts

def verdictsOn (e : Evaluation δ) (d : δ) : List Value → List Prop
  | []      => []
  | v :: vs => e.Matches d v :: e.verdictsOn d vs

end

variable {e : Evaluation δ} {d : δ}

theorem verdictsOn_eq_map : e.verdictsOn d vs = vs.map (e.Matches d) := by
  induction vs
  case nil        => simp [verdictsOn]
  case cons hi => simp [verdictsOn, hi]

theorem matches_bool_iff :
    e.Matches d (objectOf "bool" (.object parts)) ↔ (e.verdicts d parts).Pass := by
  simp [objectOf, Matches]

theorem matches_atom_iff {a : Atom} : e.Matches d a.toValue ↔ e.holds a.toValue d := by
  cases a <;> simp [Atom.toValue, objectOf, Matches]

end Evaluation

namespace Clause

def Matches (e : Evaluation δ) (d : δ) (c : Clause Atom) : Prop :=
  e.Matches d c.toValue

variable {e : Evaluation δ} {d : δ}

theorem toValues_eq_map {cs : List (Clause Atom)} :
    toValuesWith Atom.toValue cs = cs.map toValue := by
  induction cs
  case nil => simp [toValuesWith]
  case cons hi => simp [toValuesWith, toValue, hi]

theorem toValue_object (c : Clause Atom) : ∃ ms, c.toValue = .object ms := by
  cases c
  case atom a => cases a <;> exact ⟨_, rfl⟩
  all_goals exact ⟨_, rfl⟩

theorem matches_atom_iff {a : Atom} : (atom a).Matches e d ↔ e.holds a.toValue d :=
  Evaluation.matches_atom_iff

theorem matches_only_iff : (only k c).Matches e d ↔ k.Asks [c.Matches e d] := by
  have ⟨ms, hc⟩ := c.toValue_object
  have hv : (only k c).toValue = objectOf "bool" (.object [(k.name, c.toValue)]) := rfl
  rw [Matches, hv, Evaluation.matches_bool_iff, ← Verdicts.pass_single_iff]
  simp [Evaluation.verdicts, Matches, hc]

theorem matches_group_iff : (group k cs).Matches e d ↔ k.Asks (cs.map (·.Matches e d)) := by
  have hv : (group k cs).toValue = objectOf "bool" (.object [(k.name, .list (cs.map toValue))]) := by
    simp [toValue, toValueWith, toValues_eq_map, objectOf]
  rw [Matches, hv, Evaluation.matches_bool_iff, ← Verdicts.pass_single_iff]
  simp [Evaluation.verdicts, Evaluation.verdictsOn_eq_map, Matches, Function.comp_def]

@[simp]
theorem matches_filter_only : (only .filter c).Matches e d ↔ c.Matches e d :=
  matches_only_iff.trans List.forall_mem_singleton

@[simp]
theorem matches_mustNot_only : (only .mustNot c).Matches e d ↔ ¬c.Matches e d :=
  matches_only_iff.trans List.forall_mem_singleton

@[simp]
theorem matches_must : (group .must cs).Matches e d ↔ ∀ c ∈ cs, c.Matches e d :=
  matches_group_iff.trans List.forall_mem_map

@[simp]
theorem matches_filter : (group .filter cs).Matches e d ↔ ∀ c ∈ cs, c.Matches e d :=
  matches_group_iff.trans List.forall_mem_map

@[simp]
theorem matches_should : (group .should cs).Matches e d ↔ ∃ c ∈ cs, c.Matches e d := by
  rw [matches_group_iff]
  constructor
  case mp =>
    intro ⟨p, hm, hp⟩
    obtain ⟨c, hc, rfl⟩ := List.mem_map.mp hm
    exact ⟨c, hc, hp⟩
  case mpr =>
    intro ⟨c, hc, h⟩
    exact ⟨_, List.mem_map_of_mem hc, h⟩

@[simp]
theorem matches_anything : anything.Matches e d := by
  simp [anything, matches_atom_iff, e.matchAll]

end Clause
end CatalogSearch
