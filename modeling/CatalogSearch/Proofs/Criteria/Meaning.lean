import Mathlib.Logic.Basic
import CatalogSearch.Criteria.Tree
import CatalogSearch.Proofs.Criteria.Reading
import CatalogSearch.Proofs.Matching

namespace CatalogSearch

def Operator.Says (e : Evaluation δ) (tuning : Tuning) (d : δ) (field value : String) : String → Prop
  | "Equal"              => e.holds (Atom.term field (.str value)).toValue d
  | "NotEqual"           => ¬e.holds (Atom.term field (.str value)).toValue d
  | "GreaterOrEqualThan" => e.holds (Atom.range field .gte value).toValue d
  | "GreaterThan"        => e.holds (Atom.range field .gt value).toValue d
  | "LessOrEqualThan"    => e.holds (Atom.range field .lte value).toValue d
  | "LessThan"           => e.holds (Atom.range field .lt value).toValue d
  | "NotDefined"         => ¬e.holds (Atom.present field).toValue d
  | "MostFields"         => e.holds (Atom.words tuning.searchFields value false).toValue d
  | "FullText"           =>
    if Phrase.isQuoted value then
      e.holds (Atom.phrase tuning.phraseField (Phrase.unquote value)).toValue d
    else
      e.holds (Atom.words tuning.searchFields value true).toValue d
  | "Anything"           => True
  | _                    => False

namespace Operator

theorem ofName?_eq_some_iff {text : String} : ofName? text = some o ↔ o.name = text := by
  constructor
  case mp  => exact fun h => by simpa using List.find?_some h
  case mpr => rintro rfl; cases o <;> rfl

theorem matches_clause_iff {e : Evaluation δ} {o : Operator} :
    (o.clause tuning field value).Matches e d ↔ Says e tuning d field value o.name := by
  cases o
  case fullText =>
    by_cases h : Phrase.isQuoted value <;> simp [clause, name, Says, h, Clause.matches_atom_iff]
  all_goals simp [clause, name, Says, equality, bounded, absent, Clause.matches_atom_iff]

end Operator

namespace Criteria

section

variable (e : Evaluation δ) (tuning : Tuning) (d : δ)

-- Whether a node of criteria is true of a document. A composite with an empty list of parts is no
-- constraint, whatever its condition.
inductive NodeTrueOf : Value → Prop
  | unconstrained (hc : ms.lookup "condition" = some condition)
      (hp : ms.lookup "criteria" = some (.list [])) : NodeTrueOf (.object ms)
  | all (hc : ms.lookup "condition" = some (.str "and")) (hp : ms.lookup "criteria" = some (.list vs))
      (h : ∀ v ∈ vs, NodeTrueOf v) : NodeTrueOf (.object ms)
  | any (hc : ms.lookup "condition" = some (.str "or")) (hp : ms.lookup "criteria" = some (.list vs))
      (hm : v ∈ vs) (h : NodeTrueOf v) : NodeTrueOf (.object ms)
  | leaf (hc : ms.lookup "condition" = none) (hf : ms.lookup "fieldName" = some field)
      (hv : ms.lookup "fieldValue" = some value) (ho : ms.lookup "operation" = some (.str name))
      (h : Operator.Says e tuning d field.text value.text name) : NodeTrueOf (.object ms)

-- Criteria that are absent or empty are true of every document. This holds at the root only.
def TrueOf (criteria : Value) : Prop :=
  criteria = .null ∨ criteria = .object [] ∨ NodeTrueOf e tuning d criteria

end

variable {e : Evaluation δ} {tuning : Tuning} {d : δ}

theorem nodeTrueOf_leaf_iff (hc : ms.lookup "condition" = none)
    (hf : ms.lookup "fieldName" = some field) (hv : ms.lookup "fieldValue" = some value)
    (ho : ms.lookup "operation" = some (.str name)) :
    NodeTrueOf e tuning d (.object ms) ↔ Operator.Says e tuning d field.text value.text name := by
  constructor
  case mpr => exact .leaf hc hf hv ho
  case mp =>
    intro h
    cases h
    case leaf hf' hv' ho' h => simp_all
    all_goals simp_all

theorem nodeTrueOf_all_iff (hc : ms.lookup "condition" = some (.str "and"))
    (hp : ms.lookup "criteria" = some (.list vs)) :
    NodeTrueOf e tuning d (.object ms) ↔ ∀ v ∈ vs, NodeTrueOf e tuning d v := by
  constructor
  case mpr => exact .all hc hp
  case mp =>
    intro h
    cases h <;> simp_all

theorem nodeTrueOf_any_iff (hc : ms.lookup "condition" = some (.str "or"))
    (hp : ms.lookup "criteria" = some (.list vs)) (hn : vs ≠ []) :
    NodeTrueOf e tuning d (.object ms) ↔ ∃ v ∈ vs, NodeTrueOf e tuning d v := by
  constructor
  case mpr => exact fun ⟨_, hm, h⟩ => .any hc hp hm h
  case mp =>
    intro h
    cases h
    case any hm h _ hp' =>
      cases Option.some.inj (hp.symm.trans hp')
      exact ⟨_, hm, h⟩
    all_goals simp_all

theorem clauses_eq_map {cs : List Criteria} : clauses tuning cs = cs.map (clause tuning) := by
  induction cs
  case nil     => rfl
  case cons hi => simp [clauses, hi]

theorem matches_all_iff :
    (clause tuning (.all first rest)).Matches e d ↔
      ∀ c ∈ first :: rest, (c.clause tuning).Matches e d := by
  simp [clause, clauses_eq_map]

theorem matches_any_iff :
    (clause tuning (.any first rest)).Matches e d ↔
      ∃ c ∈ first :: rest, (c.clause tuning).Matches e d := by
  simp [clause, clauses_eq_map]

theorem matches_leaf_iff (hc : ms.lookup "condition" = none) (h : readLeaf ms = .ok c) :
    (c.clause tuning).Matches e d ↔ NodeTrueOf e tuning d (.object ms) := by
  obtain ⟨field, value, name, o, hf, hv, ho, hn, rfl⟩ := readLeaf_eq_ok_iff.mp h
  rw [clause, Operator.matches_clause_iff, Operator.ofName?_eq_some_iff.mp hn]
  exact (nodeTrueOf_leaf_iff hc hf.left hv.left ho).symm

theorem matches_node_iff (h : readNode node = .ok c) :
    (c.clause tuning).Matches e d ↔ NodeTrueOf e tuning d node := by
  induction node using nodeInduction generalizing c
  case other v hv => cases v <;> simp_all [readNode]
  case object ms hi =>
    cases hc : ms.lookup "condition"
    case none => exact matches_leaf_iff hc (readNode_leaf hc ▸ h)
    case some condition =>
      obtain ⟨vs, hp⟩ := criteria_of_readNode hc h
      rw [readNode_composite hc hp, join_eq_ok_iff] at h
      replace hi : ∀ v ∈ vs, ∀ c, readNode v = .ok c →
          ((c.clause tuning).Matches e d ↔ NodeTrueOf e tuning d v) :=
        fun v hv _ => hi vs hp v hv
      rcases h with ⟨hn, rfl⟩ | ⟨first, rest, hm, ⟨rfl, rfl⟩ | ⟨rfl, rfl⟩⟩
      case inl =>
        simp only [List.map_eq_nil_iff] at hn
        simpa [clause] using NodeTrueOf.unconstrained hc (hn ▸ hp)
      case inr.inl =>
        rw [matches_all_iff, nodeTrueOf_all_iff hc hp]
        exact Outcome.forall_outcomes_iff hm hi
      case inr.inr =>
        have hn : vs ≠ [] := by rintro rfl; cases hm
        rw [matches_any_iff, nodeTrueOf_any_iff hc hp hn]
        exact Outcome.exists_outcomes_iff hm hi

theorem matches_read_iff (h : ofValue criteria = .ok c) :
    (c.clause tuning).Matches e d ↔ TrueOf e tuning d criteria := by
  cases criteria
  case null =>
    obtain rfl := Except.ok.inj h
    simp [clause, TrueOf]
  case object ms =>
    cases ms
    case nil =>
      obtain rfl := Except.ok.inj h
      simp [clause, TrueOf]
    case cons m ms =>
      rw [matches_node_iff (Outcome.mapError_eq_ok_iff.mp h)]
      simp [TrueOf]
  all_goals simp [ofValue] at h

end Criteria

namespace CriteriaTree

inductive TrueOf (e : Evaluation δ) (tuning : Tuning) (d : δ) : CriteriaTree → Prop
  | unconstrained : TrueOf e tuning d (.group condition [])
  | all (h : ∀ part ∈ parts, TrueOf e tuning d part) : TrueOf e tuning d (.group (.str "and") parts)
  | any (hm : part ∈ parts) (h : TrueOf e tuning d part) : TrueOf e tuning d (.group (.str "or") parts)
  | criterion (h : Operator.Says e tuning d field.text value.text name) :
    TrueOf e tuning d (.criterion field value (.str name))

variable {e : Evaluation δ} {tuning : Tuning} {d : δ}

theorem toValues_eq_map {parts : List CriteriaTree} : toValues parts = parts.map toValue := by
  induction parts
  case nil     => rfl
  case cons hi => simp [toValues, hi]

theorem TrueOf.toValue {tree : CriteriaTree} (h : tree.TrueOf e tuning d) :
    Criteria.NodeTrueOf e tuning d tree.toValue := by
  induction h
  case unconstrained => exact .unconstrained rfl rfl
  case criterion h   => exact .leaf rfl rfl rfl rfl h
  case all hi =>
    refine .all rfl rfl fun v hv => ?_
    obtain ⟨part, hm, rfl⟩ := List.mem_map.mp (toValues_eq_map ▸ hv)
    exact hi part hm
  case any hm _ hi =>
    exact .any rfl rfl (toValues_eq_map ▸ List.mem_map_of_mem hm) hi

theorem trueOf_of_node (h : Criteria.NodeTrueOf e tuning d v) :
    ∀ tree : CriteriaTree, tree.toValue = v → tree.TrueOf e tuning d := by
  induction h
  all_goals
    intro tree ht
    cases tree <;> obtain rfl := Value.object.inj ht
  case unconstrained.group _ hp =>
    have hn := Value.list.inj <| Option.some.inj hp
    simp only [toValues_eq_map, List.map_eq_nil_iff] at hn
    exact hn ▸ .unconstrained
  case all.group hi _ _ hc hp =>
    obtain rfl := Option.some.inj hc
    obtain rfl := Value.list.inj <| Option.some.inj hp
    exact .all fun part hm => hi _ (toValues_eq_map ▸ List.mem_map_of_mem hm) part rfl
  case any.group hm _ hi _ _ hc hp =>
    obtain rfl := Option.some.inj hc
    obtain rfl := Value.list.inj <| Option.some.inj hp
    obtain ⟨part, hpart, rfl⟩ := List.mem_map.mp (toValues_eq_map ▸ hm)
    exact .any hpart (hi part rfl)
  case leaf.criterion h _ _ _ _ hf hv ho =>
    obtain rfl := Option.some.inj hf
    obtain rfl := Option.some.inj hv
    obtain rfl := Option.some.inj ho
    exact .criterion h
  all_goals contradiction

theorem trueOf_toValue_iff {tree : CriteriaTree} :
    Criteria.TrueOf e tuning d tree.toValue ↔ tree.TrueOf e tuning d := by
  constructor
  case mp =>
    intro h
    have h : Criteria.NodeTrueOf e tuning d tree.toValue := by
      cases tree <;> simpa [Criteria.TrueOf, CriteriaTree.toValue] using h
    exact trueOf_of_node h tree rfl
  case mpr => exact fun h => .inr <| .inr h.toValue

end CriteriaTree

-- The clause of criteria matches the documents that the criteria are true of, whether they arrive as an
-- object or were put together part by part.
theorem Criteria.matches_compiled_iff (e : Evaluation δ) (tuning : Tuning) (d : δ) :
    (∀ criteria sent, compile tuning criteria = .ok sent →
      (e.Matches d sent.toValue ↔ TrueOf e tuning d criteria)) ∧
    (∀ (tree : CriteriaTree) sent, compile tuning tree.toValue = .ok sent →
      (e.Matches d sent.toValue ↔ tree.TrueOf e tuning d)) := by
  have h : ∀ criteria sent, compile tuning criteria = .ok sent →
      (e.Matches d sent.toValue ↔ TrueOf e tuning d criteria) := by
    intro criteria sent hs
    obtain ⟨c, hc, rfl⟩ := compile_eq_ok_iff.mp hs
    exact matches_read_iff hc
  exact ⟨h, fun tree sent hs => (h _ sent hs).trans CriteriaTree.trueOf_toValue_iff⟩

theorem Criteria.matches_compiled_branded_or_stocked :
    let e : Evaluation Unit := ⟨fun v _ => v = Atom.matchAll.toValue, fun _ => rfl⟩
    let tree : CriteriaTree := .anyOf [
      .criterion (.str "brand") (.str "acme") (.str "Equal"),
      .criterion (.str "stock") (.int 0) (.str "NotEqual")]
    let sent : Clause Atom := .group .should [
      .only .filter (.atom (.term "brand" (.str "acme"))),
      .only .mustNot (.atom (.term "stock" (.str "0")))]
    compile {} tree.toValue = .ok sent ∧ e.Matches () sent.toValue ∧ TrueOf e {} () tree.toValue := by
  intro e tree sent
  have hs : compile {} tree.toValue = .ok sent := by rfl
  have ht : tree.TrueOf e {} () := .any (.tail _ (.head _)) <| .criterion <| by
    simp [Operator.Says, e, Atom.toValue, objectOf]
  have hm := (matches_compiled_iff e {} ()).right tree sent hs |>.mpr ht
  exact ⟨hs, hm, (matches_compiled_iff e {} ()).left tree.toValue sent hs |>.mp hm⟩

end CatalogSearch
