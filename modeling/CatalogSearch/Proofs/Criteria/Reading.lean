import CatalogSearch.Criteria.Basic
import CatalogSearch.Proofs.Outcome

namespace CatalogSearch.Criteria

-- The parts of a composite are the items of its member `criteria`, and all other nodes are leaves here.
@[elab_as_elim]
theorem nodeInduction {P : Value → Prop}
    (object : ∀ ms, (∀ vs, ms.lookup "criteria" = some (.list vs) → ∀ v ∈ vs, P v) → P (.object ms))
    (other : ∀ v, (∀ ms, v ≠ .object ms) → P v) (v : Value) : P v :=
  match v with
  | .object ms => object ms fun vs h v hv =>
    have hm : ("criteria", Value.list vs) ∈ ms := by
      obtain ⟨before, after, rfl, _⟩ := List.lookup_eq_some_iff.mp h
      simp
    have hs : sizeOf v < sizeOf (Value.object ms) := by
      have := List.sizeOf_lt_of_mem hv
      have := List.sizeOf_lt_of_mem hm
      simp at *
      omega
    nodeInduction object other v
  | .null | .bool _ | .int _ | .double _ | .str _ | .date _ | .list _ => other _ nofun
termination_by sizeOf v
decreasing_by exact hs

theorem readNodes_eq_map : readNodes vs = vs.map readNode := by
  induction vs
  case nil     => rfl
  case cons hi => simp [readNodes, hi]

theorem readParts_eq_some_iff :
    readParts ms = some parts ↔
      ∃ vs, ms.lookup "criteria" = some (.list vs) ∧ parts = vs.map readNode := by
  induction ms
  case nil => simp [readParts]
  case cons m ms hi =>
    have ⟨key, v⟩ := m
    by_cases hk : key = "criteria"
    case pos => cases v <;> simp [readParts, hk, readNodes_eq_map, eq_comm]
    case neg =>
      have hb : ("criteria" == key) = false := by simpa using Ne.symm hk
      cases v <;> simp [readParts, hk, List.lookup_cons, hb, hi]

theorem readNode_composite (hc : ms.lookup "condition" = some condition)
    (hp : ms.lookup "criteria" = some (.list vs)) :
    readNode (.object ms) = join condition (vs.map readNode) := by
  have h : readParts ms = some (vs.map readNode) := readParts_eq_some_iff.mpr ⟨vs, hp, rfl⟩
  simp [readNode, hc, h]

theorem criteria_of_readNode (hc : ms.lookup "condition" = some condition)
    (h : readNode (.object ms) = .ok c) : ∃ vs, ms.lookup "criteria" = some (.list vs) := by
  cases hp : readParts ms
  case none       => simp [readNode, hc, hp] at h
  case some parts => exact (readParts_eq_some_iff.mp hp).imp fun _ => And.left

theorem readNode_leaf (hc : ms.lookup "condition" = none) : readNode (.object ms) = readLeaf ms := by
  simp [readNode, hc]

theorem composite_eq_ok_iff {part : Except CompileError Criteria} {parts : List _}
    {composite : Criteria → List Criteria → Criteria} :
    (do return composite (← part) (← parts.mapM id)) = Except.ok c ↔
      ∃ first rest, part :: parts = (first :: rest).map .ok ∧ c = composite first rest := by
  simp only [Outcome.bind_eq_ok_iff, Outcome.mapM_eq_ok_iff, List.map_id, pure, Except.pure]
  constructor
  case mp =>
    rintro ⟨first, rfl, rest, rfl, h⟩
    exact ⟨first, rest, rfl, by injection h with h; exact h.symm⟩
  case mpr =>
    rintro ⟨first, rest, h, rfl⟩
    simp only [List.map_cons, List.cons.injEq] at h
    exact ⟨first, h.left, rest, h.right, rfl⟩

theorem join_eq_ok_iff {parts : List (Except CompileError Criteria)} :
    join condition parts = .ok c ↔ (parts = [] ∧ c = .everything) ∨
      ∃ first rest, parts = (first :: rest).map .ok ∧
        (condition = .str "and" ∧ c = .all first rest ∨
          condition = .str "or" ∧ c = .any first rest) := by
  cases parts
  case nil => simp [join, eq_comm]
  case cons part parts =>
    by_cases ha : condition = .str "and"
    case pos =>
      rw [join, if_pos ha, composite_eq_ok_iff]
      simp [ha]
    by_cases ho : condition = .str "or"
    case pos =>
      rw [join, if_neg ha, if_pos ho, composite_eq_ok_iff]
      simp [ho]
    case neg => simp [join, ha, ho]

theorem missingLeafKeys_eq_nil_iff :
    missingLeafKeys ms = [] ↔ ∀ key ∈ leafKeys, ∃ v, ms.lookup key = some v ∧ v ≠ .null := by
  simp only [missingLeafKeys, List.filter_eq_nil_iff, decide_eq_true_eq]
  refine forall₂_congr fun key _ => ?_
  cases ms.lookup key <;> simp

theorem readLeaf_eq_ok_iff :
    readLeaf ms = .ok c ↔ ∃ field value name operator,
      (ms.lookup "fieldName" = some field ∧ field ≠ .null) ∧
      (ms.lookup "fieldValue" = some value ∧ value ≠ .null) ∧
      ms.lookup "operation" = some (.str name) ∧ Operator.ofName? name = some operator ∧
      c = .leaf operator field.text value.text := by
  constructor
  case mp =>
    intro h
    simp only [readLeaf] at h
    split at h
    case h_2 => cases h
    case h_1 hm =>
      have hk := missingLeafKeys_eq_nil_iff.mp hm
      have ⟨field, hf⟩ := hk "fieldName" (by simp [leafKeys])
      have ⟨value, hv⟩ := hk "fieldValue" (by simp [leafKeys])
      have ⟨operation, ho, _⟩ := hk "operation" (by simp [leafKeys])
      simp only [hf.left, hv.left, ho, Option.getD_some] at h
      split at h
      case h_2 => cases h
      case h_1 operator hn =>
        cases operation <;> simp [Operator.ofValue?] at hn
        case str name _ => exact ⟨field, value, name, operator, hf, hv, ho, hn, (Except.ok.inj h).symm⟩
  case mpr =>
    rintro ⟨field, value, name, operator, ⟨hf, hf'⟩, ⟨hv, hv'⟩, ho, hn, rfl⟩
    have hm : missingLeafKeys ms = [] := by
      simp [missingLeafKeys_eq_nil_iff, leafKeys, hf, hf', hv, hv', ho]
    simp [readLeaf, hm, hf, hv, ho, Operator.ofValue?, hn]

theorem compile_eq_ok_iff {sent : Clause Atom} :
    compile tuning criteria = .ok sent ↔ ∃ c, ofValue criteria = .ok c ∧ c.clause tuning = sent :=
  Outcome.map_eq_ok_iff

end CatalogSearch.Criteria
