import CatalogSearch.Proofs.Facet.Escape
import CatalogSearch.Proofs.Query.Filters
import Mathlib.Data.List.Pairwise

namespace CatalogSearch

namespace Atom

def renamed (rename : String → String) : Atom → Atom
  | term field value        => term (rename field) value
  | range field bound value => range (rename field) bound value
  | a                       => a

def fields : Atom → List String
  | term field _ | range field .. => [field]
  | _                             => []

theorem fields_renamed (a : Atom) : (a.renamed rename).fields = a.fields.map rename := by
  cases a <;> rfl

end Atom

namespace Clause

def renamed (rename : String → String) (c : Clause Atom) : Clause Atom :=
  c.map (.renamed rename)

mutual

def fields : Clause Atom → List String
  | .atom a     => a.fields
  | .only _ c   => fields c
  | .group _ cs => fieldsOfAll cs

def fieldsOfAll : List (Clause Atom) → List String
  | []      => []
  | c :: cs => fields c ++ fieldsOfAll cs

end

mutual

theorem fields_renamed (rename : String → String) :
    ∀ c : Clause Atom, (c.renamed rename).fields = c.fields.map rename
  | .atom a     => a.fields_renamed
  | .only _ c   => fields_renamed rename c
  | .group _ cs => fieldsOfAll_renamed rename cs

theorem fieldsOfAll_renamed (rename : String → String) :
    ∀ cs : List (Clause Atom), fieldsOfAll (mapAll (.renamed rename) cs) = (fieldsOfAll cs).map rename
  | []      => rfl
  | c :: cs => by
    have hc := fields_renamed rename c
    have hcs := fieldsOfAll_renamed rename cs
    rw [mapAll, fieldsOfAll, fieldsOfAll, List.map_append, hcs, ← hc, renamed]

end

theorem fieldsOfAll_eq_flatMap {cs : List (Clause Atom)} : fieldsOfAll cs = cs.flatMap fields := by
  induction cs
  case nil     => rfl
  case cons hi => rw [fieldsOfAll, hi, List.flatMap_cons]

theorem mapAll_eq_map {f : α → β} {cs : List (Clause α)} : mapAll f cs = cs.map (map f) := by
  induction cs
  case nil     => rfl
  case cons hi => rw [mapAll, hi, List.map_cons]

theorem renamed_group {cs : List (Clause Atom)} :
    (group k cs).renamed rename = group k (cs.map (renamed rename)) := by
  rw [renamed, map, mapAll_eq_map]
  rfl

end Clause

theorem FacetRange.clause_renamed {r : FacetRange} (rename : String → String) (field : String) :
    (r.clause field).renamed rename = r.clause (rename field) := by
  by_cases hl : r.lower = .null <;> by_cases hu : r.upper = .null
  all_goals
    simp only [clause, hl, hu, if_true, if_false]
    rfl

theorem FacetRange.fields_clause {r : FacetRange} (h : name ∈ (r.clause field).fields) : name = field := by
  unfold clause at h
  split at h <;> split at h
  case isTrue.isTrue   => cases h
  case isTrue.isFalse  => exact List.mem_singleton.mp h
  case isFalse.isTrue  => exact List.mem_singleton.mp h
  case isFalse.isFalse => exact (List.mem_pair.mp h).elim id id

namespace Selection

variable {registry : Registry}

theorem valueClause_renamed (rename : String → String) :
    valueClause transformation? (rename field) value =
      (valueClause transformation? field value).map (Clause.renamed rename) := by
  cases transformation?
  case none   => rfl
  case some t =>
    cases value
    case str token =>
      simp only [valueClause]
      cases t.decode token
      case range r => exact congrArg Except.ok (r.clause_renamed rename field).symm
      case plain s => rfl
    all_goals rfl

theorem valueClauses_renamed (rename : String → String) :
    valueClauses registry code (rename field) values =
      (valueClauses registry code field values).map (List.map (Clause.renamed rename)) := by
  simp only [valueClauses]
  cases values.items
  case error => rfl
  case ok vs =>
    refine .trans ?_ Outcome.mapM_map
    exact congrArg vs.mapM (funext fun _ => valueClause_renamed rename)

theorem entryClause?_renamed (rename : String → String) :
    entryClause? registry rename code values =
      (entryClause? registry id code values).map (Option.map (Clause.renamed rename)) := by
  simp only [entryClause?, id]
  split
  case isFalse => rfl
  case isTrue =>
    rw [valueClauses_renamed rename]
    cases valueClauses registry code code values
    case error => rfl
    case ok cs => exact congrArg (fun c => Except.ok (some c)) Clause.renamed_group.symm

theorem clauses_renamed (selection : Selection) (rename : String → String) :
    selection.clauses registry rename =
      (selection.clauses registry id).map (List.map (Clause.renamed rename)) := by
  have he : (fun entry : String × Value => entryClause? registry rename entry.1 entry.2) =
      fun entry => (entryClause? registry id entry.1 entry.2).map (Option.map (Clause.renamed rename)) :=
    funext fun _ => entryClause?_renamed rename
  simp only [clauses, he, Outcome.mapM_map]
  cases selection.entries.mapM fun entry => entryClause? registry id entry.1 entry.2
  case error => rfl
  case ok found =>
    refine congrArg Except.ok ?_
    simp [List.filterMap_map, List.map_filterMap]

theorem fields_textClause (h : name ∈ (textClause registry code field value).fields) : name = field := by
  rw [textClause] at h
  split at h
  case h_1 r _ => exact r.fields_clause h
  case h_2     => exact List.mem_singleton.mp h

theorem fields_alternatives {entry : String × List String}
    (h : field ∈ (alternatives registry entry).fields) : field = entry.1 := by
  rw [alternatives, Clause.fields, Clause.fieldsOfAll_eq_flatMap, List.flatMap_map] at h
  obtain ⟨value, -, h⟩ := List.mem_flatMap.mp h
  exact fields_textClause h

-- The codes of a selection differ, so clauses of different codes have no field in common if different codes
-- are different names.
theorem fields_disjoint (selection : OrderedMap (List String)) (registry : Registry)
    (hr : Function.Injective rename) :
    ((active selection).map fun entry => (alternatives registry entry).renamed rename).Pairwise
      fun c d => c.fields.Disjoint d.fields := by
  have hn : (active selection).Pairwise (·.1 ≠ ·.1) := (List.pairwise_map.mp selection.nodup).filter _
  rw [List.pairwise_map]
  refine hn.imp fun {entry other} hne field he ho => ?_
  rw [Clause.fields_renamed] at he ho
  obtain ⟨code, hc, rfl⟩ := List.mem_map.mp he
  obtain ⟨code', hc', hf⟩ := List.mem_map.mp ho
  exact hne <| (fields_alternatives hc).symm.trans <| (hr hf).symm.trans <| fields_alternatives hc'

-- Every clause that is fit for query expressions is the one of the same place in the filters of a query,
-- with its code escaped wherever it names a field. What the selected values of a code stand for is decided
-- by the code as it is. Clauses of different codes never ask about the same field.
theorem escapedClauses_renamed (selection : OrderedMap (List String)) (registry : Registry) :
    ∃ plain escaped,
      (ofTexts selection).clauses registry id = .ok plain ∧
      (ofTexts selection).escapedClauses registry = .ok escaped ∧
      Query.filtersClause (ofTexts selection) registry = .ok (Query.conjunction plain) ∧
      plain = (active selection).map (alternatives registry) ∧
      (∀ entry ∈ active selection, ∀ field ∈ (alternatives registry entry).fields, field = entry.1) ∧
      escaped = plain.map (Clause.renamed Reserved.escape) ∧
      escaped.Pairwise fun c d => c.fields.Disjoint d.fields := by
  have hc := clauses_eq_ok selection registry
  refine ⟨_, _, hc, ?escaped, Query.filtersClause_eq_ok selection registry, rfl,
    fun _ _ _ => fields_alternatives, rfl, ?disjoint⟩
  case escaped  => rw [escapedClauses, clauses_renamed, hc, Except.map]
  case disjoint =>
    rw [List.map_map]
    exact fields_disjoint selection registry Reserved.escape_injective

end Selection
end CatalogSearch
