import Mathlib.Logic.Basic
import CatalogSearch.Facet.Filter
import CatalogSearch.Proofs.Matching
import CatalogSearch.Proofs.Outcome

namespace CatalogSearch

structure FacetRange.Covers (r : FacetRange) (e : Evaluation δ) (d : δ) (field : String) : Prop where
  lower : r.lower ≠ .null → e.holds (Atom.range field .gte r.lower.text).toValue d
  upper : r.upper ≠ .null → e.holds (Atom.range field .lte r.upper.text).toValue d

theorem FacetRange.matches_clause_iff {r : FacetRange} {e : Evaluation δ} :
    (r.clause field).Matches e d ↔ r.Covers e d field := by
  have h : r.Covers e d field ↔
      (r.lower ≠ .null → e.holds (Atom.range field .gte r.lower.text).toValue d) ∧
      (r.upper ≠ .null → e.holds (Atom.range field .lte r.upper.text).toValue d) :=
    ⟨fun ⟨l, u⟩ => ⟨l, u⟩, fun ⟨l, u⟩ => ⟨l, u⟩⟩
  by_cases hl : r.lower = .null <;> by_cases hu : r.upper = .null
  all_goals simp [h, clause, hl, hu, Operator.bounded, Clause.matches_atom_iff]

def Registry.decode (r : Registry) (code value : String) : Decoded :=
  (r.find? code).elim (.plain value) (·.decode value)

namespace Selection

def ofTexts (selection : OrderedMap (List String)) : Selection :=
  selection.mapValues fun values => .list (values.map .str)

def HasValue (e : Evaluation δ) (d : δ) (registry : Registry) (code value : String) : Prop :=
  match registry.decode code value with
  | .range r => r.Covers e d code
  | .plain s => e.holds (Atom.term code (.str s)).toValue d

def textClause (registry : Registry) (code field value : String) : Clause Atom :=
  match registry.decode code value with
  | .range r => r.clause field
  | .plain s => Operator.equality field (.str s)

variable {e : Evaluation δ} {d : δ} {registry : Registry}

theorem valueClause_text : valueClause (registry.find? code) field (.str value) =
    .ok (textClause registry code field value) := by
  rw [textClause, Registry.decode]
  cases registry.find? code
  case none   => rfl
  case some t => cases hd : t.decode value <;> simp [valueClause, hd]

theorem matches_textClause_iff :
    (textClause registry code code value).Matches e d ↔ HasValue e d registry code value := by
  rw [textClause, HasValue]
  cases registry.decode code value
  case range r => exact FacetRange.matches_clause_iff
  case plain s => simp [Operator.equality, Clause.matches_atom_iff]

theorem valueClauses_texts {values : List String} :
    valueClauses registry code field (.list (values.map .str)) =
      .ok (values.map (textClause registry code field)) := by
  have hm : valueClauses registry code field (.list (values.map .str)) =
      values.mapM fun value => valueClause (registry.find? code) field (.str value) := by
    simp [valueClauses, Value.items, bind, Except.bind, List.mapM_map, Function.comp_def]
  rw [hm, Outcome.mapM_eq_ok_iff, List.map_map]
  exact List.map_congr_left fun _ _ => valueClause_text

theorem exists_valueClauses (registry : Registry) (code field : String) (values : List String) :
    ∃ cs, valueClauses registry code field (.list (values.map .str)) = .ok cs :=
  ⟨_, valueClauses_texts⟩

theorem matches_valueClauses_iff {values : List String}
    (h : valueClauses registry code code (.list (values.map .str)) = .ok cs) :
    (∃ c ∈ cs, c.Matches e d) ↔ ∃ value ∈ values, HasValue e d registry code value := by
  obtain rfl := Except.ok.inj (valueClauses_texts.symm.trans h)
  simp [matches_textClause_iff]

theorem entryClause?_eq_ok_iff {rename : String → String} {values : List String} (hn : values ≠ []) :
    entryClause? registry rename code (.list (values.map .str)) = .ok found ↔
      ∃ cs, valueClauses registry code (rename code) (.list (values.map .str)) = .ok cs ∧
        some (.group .should cs) = found := by
  have h : (Value.list (values.map .str)).holds := by simp [Value.holds, hn]
  simp only [entryClause?, h, if_true, Outcome.bind_eq_ok_iff, pure, Except.pure, Except.ok.injEq]

theorem exists_entryClause (registry : Registry) (rename : String → String) (code : String)
    (values : List String) :
    ∃ found, entryClause? registry rename code (.list (values.map .str)) = .ok found := by
  by_cases hn : values = []
  case pos => exact ⟨none, by simp [hn, entryClause?, Value.holds]; rfl⟩
  case neg =>
    have ⟨cs, hc⟩ := exists_valueClauses registry code (rename code) values
    exact ⟨_, (entryClause?_eq_ok_iff hn).mpr ⟨cs, hc, rfl⟩⟩

theorem matches_entryClause_iff {values : List String}
    (h : entryClause? registry id code (.list (values.map .str)) = .ok found) :
    (∀ c ∈ found, c.Matches e d) ↔
      (values ≠ [] → ∃ value ∈ values, HasValue e d registry code value) := by
  by_cases hn : values = []
  case pos =>
    subst hn
    obtain rfl : none = found := Except.ok.inj h
    simp
  case neg =>
    obtain ⟨cs, hc, rfl⟩ := (entryClause?_eq_ok_iff hn).mp h
    simp [hn, matches_valueClauses_iff hc]

variable {selection : OrderedMap (List String)}

theorem clauses_ofTexts {rename : String → String} :
    (ofTexts selection).clauses registry rename = (do
      let found ← selection.entries.mapM fun entry =>
        entryClause? registry rename entry.1 (.list (entry.2.map .str))
      return found.filterMap id) := by
  simp [clauses, ofTexts, OrderedMap.mapValues, List.mapM_map, Function.comp_def]

theorem exists_clauses (selection : OrderedMap (List String)) (registry : Registry)
    (rename : String → String) : ∃ cs, (ofTexts selection).clauses registry rename = .ok cs := by
  have ⟨found, hf⟩ : ∃ found, (selection.entries.mapM fun entry =>
      entryClause? registry rename entry.1 (.list (entry.2.map .str))) = .ok found :=
    Outcome.exists_mapM_eq_ok fun entry _ => exists_entryClause registry rename entry.1 entry.2
  exact ⟨found.filterMap id, by rw [clauses_ofTexts, hf]; rfl⟩

-- A document matches the clauses of a selection if it has one of the selected values of every code that
-- has any.
theorem matches_clauses_iff (h : (ofTexts selection).clauses registry id = .ok cs) :
    (∀ c ∈ cs, c.Matches e d) ↔ ∀ entry ∈ selection.entries, entry.2 ≠ [] →
      ∃ value ∈ entry.2, HasValue e d registry entry.1 value := by
  rw [clauses_ofTexts] at h
  have ⟨found, hf, hc⟩ := Outcome.bind_eq_ok_iff.mp h
  obtain rfl := Except.ok.inj hc
  have hm : (∀ c ∈ found.filterMap id, c.Matches e d) ↔ ∀ c? ∈ found, ∀ c ∈ c?, c.Matches e d := by
    simp only [List.mem_filterMap, id]
    exact ⟨fun h o ho c hc => h c ⟨o, ho, hc⟩, fun h c ⟨o, ho, hc⟩ => h o ho c hc⟩
  rw [hm]
  exact Outcome.forall_outcomes_iff (Outcome.mapM_eq_ok_iff.mp hf) fun _ _ _ => matches_entryClause_iff

end Selection
end CatalogSearch
