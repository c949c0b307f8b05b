import CatalogSearch.Proofs.Query.Meaning

namespace CatalogSearch

namespace Selection

variable {e : Evaluation δ} {d : δ} {registry : Registry}

def alternatives (registry : Registry) (entry : String × List String) : Clause Atom :=
  .group .should (entry.2.map (textClause registry entry.1 entry.1))

def active (selection : OrderedMap (List String)) : List (String × List String) :=
  selection.entries.filter (·.2 ≠ [])

theorem matches_alternatives_iff {entry : String × List String} :
    (alternatives registry entry).Matches e d ↔
      ∃ value ∈ entry.2, HasValue e d registry entry.1 value := by
  rw [alternatives, Clause.matches_should]
  exact matches_valueClauses_iff valueClauses_texts

theorem entryClause?_eq_ok {entry : String × List String} :
    entryClause? registry id entry.1 (.list (entry.2.map .str)) =
      .ok (if entry.2 ≠ [] then some (alternatives registry entry) else none) := by
  by_cases hn : entry.2 = []
  case pos => simp [hn, entryClause?, Value.holds]; rfl
  case neg =>
    rw [if_pos hn]
    exact (entryClause?_eq_ok_iff hn).mpr ⟨_, valueClauses_texts, rfl⟩

theorem clauses_eq_ok (selection : OrderedMap (List String)) (registry : Registry) :
    (ofTexts selection).clauses registry id =
      .ok ((active selection).map (alternatives registry)) := by
  have hf : (selection.entries.mapM fun entry =>
      entryClause? registry id entry.1 (.list (entry.2.map .str))) =
        .ok (selection.entries.map fun entry =>
          if entry.2 ≠ [] then some (alternatives registry entry) else none) := by
    rw [Outcome.mapM_eq_ok_iff, List.map_map]
    exact List.map_congr_left fun _ _ => entryClause?_eq_ok
  rw [clauses_ofTexts, hf]
  refine congrArg Except.ok ?_
  rw [List.filterMap_map, active, ← List.filterMap_eq_filter, List.map_filterMap]
  refine List.filterMap_congr fun entry _ => ?_
  by_cases hn : entry.2 = [] <;> simp [hn, Option.guard]

theorem ofTexts_erase (selection : OrderedMap (List String)) (code : String) :
    (ofTexts selection).erase code = ofTexts (selection.erase code) := by
  ext : 1
  simp [ofTexts, OrderedMap.mapValues, OrderedMap.erase, List.filter_map, Function.comp_def]

theorem active_erase (selection : OrderedMap (List String)) (code : String) :
    active (selection.erase code) = (active selection).filter (·.1 ≠ code) := by
  simp only [active, OrderedMap.erase, List.filter_filter, Bool.and_comm]

theorem exists_clauses_erase {selection : Selection} {rename : String → String}
    (h : selection.clauses registry rename = .ok cs) (code : String) :
    ∃ cs', clauses (selection.erase code) registry rename = .ok cs' := by
  obtain ⟨found, hf, _⟩ := Outcome.bind_eq_ok_iff.mp h
  have hf := Outcome.mapM_eq_ok_iff.mp hf
  obtain ⟨found', hf'⟩ : ∃ found', ((selection.erase code).entries.mapM fun entry =>
      entryClause? registry rename entry.1 entry.2) = .ok found' := by
    refine Outcome.exists_mapM_eq_ok fun entry hm => ?_
    exact (Outcome.exists_outcome_of_mem hf (List.mem_of_mem_filter hm)).imp fun _ => And.right
  exact ⟨_, Outcome.bind_eq_ok_iff.mpr ⟨found', hf', rfl⟩⟩

end Selection

namespace Query

def conjunction : List (Clause Atom) → Clause Atom
  | []      => .anything
  | clauses => .group .filter clauses

@[simp]
theorem matches_conjunction_iff {clauses : List (Clause Atom)} {e : Evaluation δ} :
    (conjunction clauses).Matches e d ↔ ∀ c ∈ clauses, c.Matches e d := by
  cases clauses <;> simp [conjunction]

theorem filtersClause_eq_ok (selection : OrderedMap (List String)) (registry : Registry) :
    filtersClause (.ofTexts selection) registry =
      .ok (conjunction ((Selection.active selection).map (Selection.alternatives registry))) := by
  rw [filtersClause, Selection.clauses_eq_ok]
  cases (Selection.active selection).map (Selection.alternatives registry) <;> rfl

theorem exists_filtersClause_erase {selection : Selection}
    (h : filtersClause selection registry = .ok c) (code : String) :
    ∃ c', filtersClause (selection.erase code) registry = .ok c' := by
  have ⟨cs, hc, _⟩ := Outcome.bind_eq_ok_iff.mp h
  have ⟨cs', hc'⟩ := Selection.exists_clauses_erase hc code
  cases cs' <;> exact ⟨_, Outcome.bind_eq_ok_iff.mpr ⟨_, hc', rfl⟩⟩

end Query
end CatalogSearch
