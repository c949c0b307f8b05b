import CatalogSearch.Proofs.Criteria.Fault
import CatalogSearch.Proofs.Criteria.Meaning
import CatalogSearch.Proofs.Query.Shape

namespace CatalogSearch

theorem Keyword.name_injective : Function.Injective Keyword.name := by
  intro k k' h
  cases k <;> cases k' <;> simp_all [name]

theorem Bound.name_injective : Function.Injective Bound.name := by
  intro b b' h
  cases b <;> cases b' <;> simp_all [name]

theorem Atom.toValue_injective : Function.Injective Atom.toValue := by
  intro a b h
  cases a <;> cases b <;> simp only [toValue, objectOf] at h
  case words.words every _ _ every' => cases every <;> cases every' <;> simp_all
  case range.range => simp_all [Bound.name_injective.eq_iff]
  all_goals simp_all

namespace Clause

mutual

-- What is sent tells everything about a clause. Below a keyword stands an object if it is over one clause
-- and a list if it is over several, and no atom is written under `bool`.
theorem eq_of_toValue : ∀ {c d : Clause Atom}, c.toValue = d.toValue → c = d
  | .atom a, .atom b, h           => congrArg _ (Atom.toValue_injective h)
  | .atom a, .only .., h          => absurd h a.toValue_ne_bool
  | .atom a, .group .., h         => absurd h a.toValue_ne_bool
  | .only .., .atom b, h          => absurd h.symm b.toValue_ne_bool
  | .group .., .atom b, h         => absurd h.symm b.toValue_ne_bool
  | .only k c, .only k' d, h      => by
    simp only [toValue_only, objectOf, Value.object.injEq, List.cons.injEq, Prod.mk.injEq, true_and,
      and_true] at h
    rw [Keyword.name_injective h.left, eq_of_toValue h.right]
  | .only k c, .group k' ds, h    => by
    have ⟨ms, hc⟩ := c.toValue_object
    simp [toValue_only, toValue_group, objectOf, hc] at h
  | .group k cs, .only k' d, h    => by
    have ⟨ms, hd⟩ := d.toValue_object
    simp [toValue_only, toValue_group, objectOf, hd] at h
  | .group k cs, .group k' ds, h  => by
    simp only [toValue_group, objectOf, Value.object.injEq, List.cons.injEq, Prod.mk.injEq, true_and,
      and_true, Value.list.injEq] at h
    rw [Keyword.name_injective h.left, eq_of_toValues h.right]

theorem eq_of_toValues : ∀ {cs ds : List (Clause Atom)}, cs.map toValue = ds.map toValue → cs = ds
  | [], [], _           => rfl
  | [], _ :: _, h       => by cases h
  | _ :: _, [], h       => by cases h
  | c :: cs, d :: ds, h => by
    have ⟨hc, hs⟩ := List.cons.inj h
    rw [eq_of_toValue hc, eq_of_toValues hs]

end

end Clause

namespace Operator

def usesField : Operator → Bool
  | fullText | mostFields | anything => false
  | _                                => true

def usesText : Operator → Bool
  | notDefined | anything => false
  | _                     => true

theorem name_injective : Function.Injective Operator.name := by
  intro o o' h
  exact Option.some.inj <| (ofName?_eq_some_iff.mpr h).symm.trans (ofName?_eq_some_iff.mpr rfl)

-- Without phrases, operators are told apart by their clauses. Each pair of operators is a case of its own.
theorem clause_eq_iff {o o' : Operator} (hq : o = .fullText → Phrase.isQuoted text = false)
    (hq' : o' = .fullText → Phrase.isQuoted text' = false) :
    o.clause tuning field text = o'.clause tuning field' text' ↔
      o = o' ∧ (o.usesField → field = field') ∧ (o.usesText → text = text') := by
  cases o <;> cases o' <;> simp_all [clause, equality, bounded, absent, Clause.anything, usesField, usesText]

theorem exists_atom_of_group {o : Operator} (h : o.clause tuning field text = .group k (c :: cs)) :
    ∃ a, c = .atom a := by
  cases o
  case fullText =>
    rw [clause] at h
    split at h <;> cases h <;> exact ⟨_, rfl⟩
  case mostFields => cases h; exact ⟨_, rfl⟩
  all_goals cases h

end Operator

namespace Criteria

structure IsLeaf (ms : List (String × Value)) (o : Operator) (field text : String) : Prop where
  condition : ms.lookup "condition" = none
  field     : ms.lookup "fieldName" = some (.str field)
  text      : ms.lookup "fieldValue" = some (.str text)
  operation : ms.lookup "operation" = some (.str o.name)

structure IsComposite (ms : List (String × Value)) (condition : String) (parts : List Value) : Prop where
  condition : ms.lookup "condition" = some (.str condition)
  parts     : ms.lookup "criteria" = some (.list parts)

inductive Plain : Value → Prop
  | leaf (h : IsLeaf ms o field text) (hq : o = .fullText → Phrase.isQuoted text = false) :
    Plain (.object ms)
  | composite (h : IsComposite ms condition parts) (hc : condition = "and" ∨ condition = "or")
    (hn : parts ≠ []) (hp : ∀ part ∈ parts, Plain part) : Plain (.object ms)

-- The same tree, but for what operators ignore and for members that do not belong to criteria.
inductive Alike : Value → Value → Prop
  | leaf (h : IsLeaf ms o field text) (h' : IsLeaf ms' o field' text')
    (hf : o.usesField → field = field') (ht : o.usesText → text = text') :
    Alike (.object ms) (.object ms')
  | composite (h : IsComposite ms condition parts) (h' : IsComposite ms' condition parts')
    (hp : List.Forall₂ Alike parts parts') : Alike (.object ms) (.object ms')

section

variable {ms ms' : List (String × Value)} {o o' : Operator} {field text field' text' : String}
  {condition condition' : String} {parts parts' : List Value}

theorem IsLeaf.unique (h : IsLeaf ms o field text) (h' : IsLeaf ms o' field' text') :
    o = o' ∧ field = field' ∧ text = text' := by
  have hs {key s s'} (h : ms.lookup key = some (.str s)) (h' : ms.lookup key = some (.str s')) : s = s' := by
    simpa [h] using h'
  exact ⟨Operator.name_injective (hs h.operation h'.operation), hs h.field h'.field, hs h.text h'.text⟩

theorem IsComposite.unique (h : IsComposite ms condition parts) (h' : IsComposite ms condition' parts') :
    condition = condition' ∧ parts = parts' := by
  have hc : condition = condition' := by simpa [h.condition] using h'.condition
  have hp : parts = parts' := by simpa [h.parts] using h'.parts
  exact ⟨hc, hp⟩

theorem IsLeaf.not_composite (h : IsLeaf ms o field text) : ¬IsComposite ms condition parts :=
  fun h' => nomatch h.condition.symm.trans h'.condition

theorem alike_leaf_iff (h : IsLeaf ms o field text) (h' : IsLeaf ms' o' field' text') :
    Alike (.object ms) (.object ms') ↔
      o = o' ∧ (o.usesField → field = field') ∧ (o.usesText → text = text') := by
  constructor
  case mp =>
    rintro (⟨hl, hl', hf, ht⟩ | ⟨hc, -, -⟩)
    case composite => exact absurd hc h.not_composite
    case leaf =>
      have ⟨ho, hfield, htext⟩ := h.unique hl
      have ⟨ho', hfield', htext'⟩ := h'.unique hl'
      subst ho hfield htext hfield' htext'
      exact ⟨ho'.symm, hf, ht⟩
  case mpr =>
    rintro ⟨rfl, hf, ht⟩
    exact .leaf h h' hf ht

theorem alike_composite_iff (h : IsComposite ms condition parts) (h' : IsComposite ms' condition' parts') :
    Alike (.object ms) (.object ms') ↔ condition = condition' ∧ List.Forall₂ Alike parts parts' := by
  constructor
  case mp =>
    rintro (⟨hl, -, -, -⟩ | ⟨hc, hc', hp⟩)
    case leaf => exact absurd h hl.not_composite
    case composite =>
      have ⟨hcondition, hparts⟩ := h.unique hc
      have ⟨hcondition', hparts'⟩ := h'.unique hc'
      subst hcondition hparts hparts'
      exact ⟨hcondition'.symm, hp⟩
  case mpr =>
    rintro ⟨rfl, hp⟩
    exact .composite h h' hp

theorem not_alike_of_leaf (h : IsLeaf ms o field text) (h' : IsComposite ms' condition parts) :
    ¬Alike (.object ms) (.object ms') := by
  rintro (⟨-, hl, -, -⟩ | ⟨hc, -, -⟩)
  case leaf      => exact hl.not_composite h'
  case composite => exact h.not_composite hc

theorem not_alike_of_composite (h : IsComposite ms condition parts) (h' : IsLeaf ms' o field text) :
    ¬Alike (.object ms) (.object ms') := by
  rintro (⟨hl, -, -, -⟩ | ⟨-, hc, -⟩)
  case leaf      => exact hl.not_composite h
  case composite => exact h'.not_composite hc

end

theorem clause_ne_atom (c : Criteria) : c.clause tuning ≠ .atom a := by
  intro h
  cases c
  case leaf operator field text =>
    cases operator
    case fullText => by_cases hq : Phrase.isQuoted text <;> simp [clause, Operator.clause, hq] at h
    all_goals cases h
  all_goals cases h

def junction (condition : String) : Keyword :=
  if condition = "and" then .must else .should

theorem junction_eq_iff (h : condition = "and" ∨ condition = "or") (h' : condition' = "and" ∨ condition' = "or") :
    junction condition = junction condition' ↔ condition = condition' := by
  rcases h with rfl | rfl <;> rcases h' with rfl | rfl <;> decide

theorem read_leaf (h : IsLeaf ms o field text) : readNode (.object ms) = .ok (.leaf o field text) := by
  rw [readNode_leaf h.condition]
  exact readLeaf_eq_ok_iff.mpr ⟨_, _, _, o, ⟨h.field, nofun⟩, ⟨h.text, nofun⟩, h.operation,
    Operator.ofName?_eq_some_iff.mpr rfl, rfl⟩

theorem clause_of_composite (tuning : Tuning) (h : IsComposite ms condition parts) (hn : parts ≠ [])
    (hr : readNode (.object ms) = .ok c) : ∃ first rest, parts.mapM readNode = .ok (first :: rest) ∧
      c.clause tuning = .group (junction condition) ((first :: rest).map (clause tuning)) := by
  rw [readNode_composite h.condition h.parts, join_eq_ok_iff] at hr
  rcases hr with ⟨hp, -⟩ | ⟨first, rest, hp, ⟨hc, rfl⟩ | ⟨hc, rfl⟩⟩
  case inl => exact absurd (List.map_eq_nil_iff.mp hp) hn
  all_goals
    cases Value.str.inj hc
    exact ⟨first, rest, Outcome.mapM_eq_ok_iff.mpr hp, by simp [clause, clauses_eq_map, junction]⟩

theorem Plain.exists_read (h : Plain v) : ∃ c, readNode v = .ok c := by
  induction h
  case leaf h _ => exact ⟨_, read_leaf h⟩
  case composite parts h hc hn _ hi =>
    have ⟨cs, hs⟩ := Outcome.exists_mapM_eq_ok hi
    have hm := Outcome.mapM_eq_ok_iff.mp hs
    rw [readNode_composite h.condition h.parts]
    cases cs
    case nil => exact absurd (List.map_eq_nil_iff.mp hm) hn
    case cons c cs =>
      rcases hc with rfl | rfl
      case inl => exact ⟨_, join_eq_ok_iff.mpr <| .inr ⟨c, cs, hm, .inl ⟨rfl, rfl⟩⟩⟩
      case inr => exact ⟨_, join_eq_ok_iff.mpr <| .inr ⟨c, cs, hm, .inr ⟨rfl, rfl⟩⟩⟩

theorem leaf_clause_ne {o : Operator} (h : IsComposite ms condition parts) (hn : parts ≠ [])
    (hr : readNode (.object ms) = .ok c) : o.clause tuning field text ≠ c.clause tuning := by
  intro he
  have ⟨first, rest, _, hc⟩ := clause_of_composite tuning h hn hr
  have ⟨a, ha⟩ := Operator.exists_atom_of_group (he.trans hc)
  exact first.clause_ne_atom ha

theorem clause_eq_iff : ∀ {w c d}, Plain v → Plain w → readNode v = .ok c → readNode w = .ok d →
    (c.clause tuning = d.clause tuning ↔ Alike v w) := by
  induction v using nodeInduction
  case other v hv =>
    rintro w c d (_ | _)
    all_goals exact absurd rfl (hv _)
  case object ms hi =>
    rintro w c d (⟨h, hq⟩ | ⟨h, hc, hn, hp⟩) (⟨h', hq'⟩ | ⟨h', hc', hn', hp'⟩) hr hr'
    case leaf.leaf =>
      cases (read_leaf h).symm.trans hr
      cases (read_leaf h').symm.trans hr'
      rw [alike_leaf_iff h h']
      exact Operator.clause_eq_iff hq hq'
    case leaf.composite =>
      cases (read_leaf h).symm.trans hr
      exact iff_of_false (leaf_clause_ne h' hn' hr') (not_alike_of_leaf h h')
    case composite.leaf =>
      cases (read_leaf h').symm.trans hr'
      exact iff_of_false (leaf_clause_ne h hn hr).symm (not_alike_of_composite h h')
    case composite.composite =>
      have ⟨first, rest, hm, hg⟩ := clause_of_composite tuning h hn hr
      have ⟨first', rest', hm', hg'⟩ := clause_of_composite tuning h' hn' hr'
      rw [hg, hg', alike_composite_iff h h', Clause.group.injEq, junction_eq_iff hc hc']
      refine and_congr_right fun _ => Outcome.map_eq_iff_forall₂ hm hm' ?_
      exact fun v hv w hw _ _ => hi _ h.parts v hv (hp v hv) (hp' w hw)

theorem Plain.exists_members (h : Plain v) : ∃ ms, v = .object ms ∧ ms ≠ [] := by
  cases h
  case leaf ms _ _ _ h _          => exact ⟨ms, rfl, fun hn => nomatch hn ▸ h.field⟩
  case composite ms _ _ h _ _ _ => exact ⟨ms, rfl, fun hn => nomatch hn ▸ h.parts⟩

-- Plain criteria have clauses, and are sent as equal values if and only if they are alike.
theorem compiled_alike_iff (tuning : Tuning) (hv : Plain v) (hw : Plain w) :
    ∃ sent sent', compile tuning v = .ok sent ∧ compile tuning w = .ok sent' ∧
      (sent.toValue = sent'.toValue ↔ Alike v w) := by
  have ho {v c} (h : Plain v) (hr : readNode v = .ok c) : compile tuning v = .ok (c.clause tuning) := by
    obtain ⟨ms, rfl, hn⟩ := h.exists_members
    simp only [compile, ofValue_object hn, hr]
    rfl
  obtain ⟨c, hc⟩ := hv.exists_read
  obtain ⟨d, hd⟩ := hw.exists_read
  refine ⟨_, _, ho hv hc, ho hw hd, ?_⟩
  calc (c.clause tuning).toValue = (d.clause tuning).toValue
    _ ↔ c.clause tuning = d.clause tuning := ⟨Clause.eq_of_toValue, congrArg _⟩
    _ ↔ Alike v w                         := clause_eq_iff hv hw hc hd

theorem compiled_alike_renamed_text :
    let brand := [("fieldName", .str "brand"), ("fieldValue", .str "acme"), ("operation", .str "Equal")]
    let text field :=
      [("note", .null), ("fieldName", .str field), ("fieldValue", .str "red hat"), ("operation", .str "FullText")]
    let both parts := Value.object [("condition", .str "and"), ("criteria", .list parts)]
    let v := both [.object brand, .object (text "title")]
    let w := both [.object brand, .object (text "name")]
    let flipped := both [.object (text "title"), .object brand]
    Plain v ∧ Plain w ∧ Plain flipped ∧ Alike v w ∧ ¬Alike v flipped ∧
    ∃ sent sent' other, compile {} v = .ok sent ∧ compile {} w = .ok sent' ∧ compile {} flipped = .ok other ∧
      sent.toValue = sent'.toValue ∧ sent.toValue ≠ other.toValue := by
  intro brand text both v w flipped
  have hb : IsLeaf brand .equal "brand" "acme" := ⟨rfl, rfl, rfl, rfl⟩
  have ht field : IsLeaf (text field) .fullText field "red hat" := ⟨rfl, rfl, rfl, rfl⟩
  have hc parts : IsComposite [("condition", .str "and"), ("criteria", .list parts)] "and" parts := ⟨rfl, rfl⟩
  have hbrand : Plain (.object brand) := .leaf hb nofun
  have htext field : Plain (.object (text field)) := .leaf (ht field) fun _ => by decide
  have hv : Plain v := .composite (hc _) (.inl rfl) nofun (by simp [hbrand, htext])
  have hw : Plain w := .composite (hc _) (.inl rfl) nofun (by simp [hbrand, htext])
  have hf : Plain flipped := .composite (hc _) (.inl rfl) nofun (by simp [hbrand, htext])
  have halike : Alike v w := .composite (hc _) (hc _) <|
    .cons (.leaf hb hb (fun _ => rfl) fun _ => rfl) <| .cons (.leaf (ht _) (ht _) nofun fun _ => rfl) .nil
  have hflipped : ¬Alike v flipped := by
    rw [alike_composite_iff (hc _) (hc _), List.forall₂_cons, alike_leaf_iff hb (ht _)]
    exact nofun
  have ⟨sent, sent', hsv, hsw, he⟩ := compiled_alike_iff {} hv hw
  have ⟨_, other, hsv', hsf, he'⟩ := compiled_alike_iff {} hv hf
  cases hsv.symm.trans hsv'
  exact ⟨hv, hw, hf, halike, hflipped, sent, sent', other, hsv, hsw, hsf, he.mpr halike, mt he'.mp hflipped⟩

end Criteria
end CatalogSearch
