import CatalogSearch.Proofs.Criteria.Reading

namespace CatalogSearch.Criteria

-- What is wrong with a node by itself, whatever its parts. A composite with an empty list of parts is
-- never wrong, and the condition of any other one counts before its parts do.
inductive Fault : Value → CompileError → Prop
  | notObject (h : ∀ ms, v ≠ .object ms) : Fault v (.notObject v.kindName)
  | noChildren (hc : ms.lookup "condition" = some condition)
    (hp : ∀ vs, ms.lookup "criteria" ≠ some (.list vs)) : Fault (.object ms) (.noChildren condition)
  | unknownCondition (hc : ms.lookup "condition" = some condition)
    (hp : ms.lookup "criteria" = some (.list vs)) (hn : vs ≠ [])
    (ha : condition ≠ .str "and") (ho : condition ≠ .str "or") :
    Fault (.object ms) (.unknownCondition condition)
  | incompleteLeaf (hc : ms.lookup "condition" = none)
    (hm : missing = ["fieldName", "fieldValue", "operation"].filter fun key =>
      ms.lookup key = none ∨ ms.lookup key = some .null)
    (hn : missing ≠ []) : Fault (.object ms) (.incompleteLeaf missing)
  | unknownOperation (hc : ms.lookup "condition" = none)
    (hf : ∃ field, ms.lookup "fieldName" = some field ∧ field ≠ .null)
    (hv : ∃ value, ms.lookup "fieldValue" = some value ∧ value ≠ .null)
    (ho : ms.lookup "operation" = some operation) (hn : operation ≠ .null)
    (hu : ∀ o : Operator, operation ≠ .str o.name) : Fault (.object ms) (.unknownOperation operation)

def Sound (node : Value) : Prop :=
  ∀ cause, ¬Fault node cause

-- The first node with a fault, and its fault.
inductive FirstFault : List Value → CompileError → Prop
  | here (h : Fault node cause) : FirstFault (node :: nodes) cause
  | later (hs : Sound node) (h : FirstFault nodes cause) : FirstFault (node :: nodes) cause

mutual

def visited : Value → List Value
  | .object ms =>
    .object ms :: if (ms.lookup "condition").isSome then visitedParts ms else []
  | v => [v]

def visitedParts : List (String × Value) → List Value
  | [] => []
  | (key, .list vs) :: ms => if key = "criteria" then visitedAll vs else visitedParts ms
  | (key, _) :: ms        => if key = "criteria" then [] else visitedParts ms

def visitedAll : List Value → List Value
  | []      => []
  | v :: vs => visited v ++ visitedAll vs

end

theorem visitedAll_eq_flatMap : visitedAll vs = vs.flatMap visited := by
  induction vs
  case nil     => rfl
  case cons hi => simp [visitedAll, hi]

theorem visitedParts_of_list (h : ms.lookup "criteria" = some (.list vs)) :
    visitedParts ms = vs.flatMap visited := by
  induction ms
  case nil => simp at h
  case cons m ms hi =>
    have ⟨key, v⟩ := m
    by_cases hk : key = "criteria"
    case pos =>
      obtain rfl : v = .list vs := by simpa [hk] using h
      simp [visitedParts, hk, visitedAll_eq_flatMap]
    case neg =>
      have hb : ("criteria" == key) = false := by simpa using Ne.symm hk
      rw [List.lookup_cons, hb] at h
      cases v <;> simp [visitedParts, hk, hi h]

theorem visitedParts_of_not_list (h : ∀ vs, ms.lookup "criteria" ≠ some (.list vs)) :
    visitedParts ms = [] := by
  induction ms
  case nil => simp [visitedParts]
  case cons m ms hi =>
    have ⟨key, v⟩ := m
    by_cases hk : key = "criteria"
    case pos => cases v <;> simp_all [visitedParts]
    case neg =>
      have hb : ("criteria" == key) = false := by simpa using Ne.symm hk
      simp only [List.lookup_cons, hb] at h
      cases v <;> simp [visitedParts, hk, hi h]

theorem visited_composite (hc : ms.lookup "condition" = some condition)
    (hp : ms.lookup "criteria" = some (.list vs)) :
    visited (.object ms) = .object ms :: vs.flatMap visited := by
  simp [visited, hc, visitedParts_of_list hp]

theorem visited_childless (h : ∀ vs, ms.lookup "criteria" ≠ some (.list vs)) :
    visited (.object ms) = [.object ms] := by
  simp [visited, visitedParts_of_not_list h]

theorem visited_leaf (hc : ms.lookup "condition" = none) : visited (.object ms) = [.object ms] := by
  simp [visited, hc]

theorem visited_other (h : ∀ ms, v ≠ .object ms) : visited v = [v] := by
  cases v
  case object ms => exact absurd rfl (h ms)
  all_goals rfl

section

variable {nodes : List Value}

@[simp]
theorem not_firstFault_nil : ¬FirstFault [] cause :=
  nofun

theorem firstFault_cons_iff :
    FirstFault (node :: nodes) cause ↔ Fault node cause ∨ Sound node ∧ FirstFault nodes cause := by
  constructor
  case mp =>
    intro h
    cases h
    case here h     => exact .inl h
    case later hs h => exact .inr ⟨hs, h⟩
  case mpr =>
    rintro (h | ⟨hs, h⟩)
    case inl => exact .here h
    case inr => exact .later hs h

theorem firstFault_append_iff :
    FirstFault (nodes ++ nodes') cause ↔
      FirstFault nodes cause ∨ (∀ node ∈ nodes, Sound node) ∧ FirstFault nodes' cause := by
  induction nodes
  case nil => simp
  case cons node nodes hi =>
    simp only [List.cons_append, firstFault_cons_iff, hi, List.forall_mem_cons]
    grind

theorem sound_iff_not_firstFault :
    (∀ node ∈ nodes, Sound node) ↔ ∀ cause, ¬FirstFault nodes cause := by
  induction nodes
  case nil => simp
  case cons node nodes hi =>
    rw [List.forall_mem_cons, hi]
    constructor
    case mp =>
      intro ⟨hs, hn⟩ cause h
      exact (firstFault_cons_iff.mp h).elim (hs cause) fun h => hn cause h.right
    case mpr =>
      intro h
      have hs : Sound node := fun cause hf => h cause (.here hf)
      exact ⟨hs, fun cause hf => h cause (.later hs hf)⟩

end

theorem firstFault_flatMap_iff :
    FirstFault (vs.flatMap visited) cause ↔ ∃ before v after, vs = before ++ v :: after ∧
      (∀ b ∈ before, ∀ node ∈ visited b, Sound node) ∧ FirstFault (visited v) cause := by
  induction vs
  case nil => simp
  case cons v vs hi =>
    rw [List.flatMap_cons, firstFault_append_iff, hi]
    constructor
    case mp =>
      rintro (h | ⟨hs, before, v', after, rfl, hb, h⟩)
      case inl => exact ⟨[], v, vs, rfl, nofun, h⟩
      case inr => exact ⟨v :: before, v', after, rfl, List.forall_mem_cons.mpr ⟨hs, hb⟩, h⟩
    case mpr =>
      rintro ⟨before, v', after, hv, hb, h⟩
      cases before
      case nil =>
        cases hv
        exact .inl h
      case cons =>
        cases hv
        have ⟨hs, hb⟩ := List.forall_mem_cons.mp hb
        exact .inr ⟨hs, _, _, _, rfl, hb, h⟩

theorem missingLeafKeys_eq :
    missingLeafKeys ms = ["fieldName", "fieldValue", "operation"].filter fun key =>
      ms.lookup key = none ∨ ms.lookup key = some .null := by
  refine List.filter_congr fun key _ => ?_
  cases ms.lookup key <;> simp

theorem ofValue?_eq_none_iff :
    Operator.ofValue? operation = none ↔ ∀ o : Operator, operation ≠ .str o.name := by
  cases operation
  case str name =>
    simp only [Operator.ofValue?, Operator.ofName?, List.find?_eq_none, Value.str.injEq, ne_eq,
      decide_eq_true_eq, eq_comm (a := name)]
    exact ⟨fun h o => h o (by cases o <;> simp [Operator.all]), fun h o _ => h o⟩
  all_goals simp [Operator.ofValue?]

theorem readLeaf_eq_error_iff (hc : ms.lookup "condition" = none) :
    readLeaf ms = .error cause ↔ Fault (.object ms) cause := by
  constructor
  case mp =>
    intro h
    simp only [readLeaf] at h
    split at h
    case h_2 missing hm =>
      cases h
      exact .incompleteLeaf hc missingLeafKeys_eq fun hn => hm (by simpa using hn)
    case h_1 hm =>
      -- With no key missing, only the operation is left to be wrong.
      have hk := missingLeafKeys_eq_nil_iff.mp hm
      have hf := hk "fieldName" (by simp [leafKeys])
      have hv := hk "fieldValue" (by simp [leafKeys])
      obtain ⟨operation, ho, hn⟩ := hk "operation" (by simp [leafKeys])
      simp only [ho, Option.getD_some] at h
      split at h
      case h_1 => cases h
      case h_2 hu =>
        cases h
        exact .unknownOperation hc hf hv ho hn (ofValue?_eq_none_iff.mp hu)
  case mpr =>
    intro h
    cases h
    case notObject h                  => exact absurd rfl (h ms)
    case noChildren hc' _             => simp_all
    case unknownCondition hc' _ _ _ _ => simp_all
    case incompleteLeaf missing hn _ hm =>
      obtain ⟨key, missing, rfl⟩ := List.exists_cons_of_ne_nil hn
      have hm : missingLeafKeys ms = key :: missing := missingLeafKeys_eq.trans hm.symm
      simp [readLeaf, hm]
    case unknownOperation hn hu _ hf hv ho =>
      have hm : missingLeafKeys ms = [] := by
        simpa [missingLeafKeys_eq_nil_iff, leafKeys, ho] using ⟨hf, hv, hn⟩
      simp [readLeaf, hm, ho, ofValue?_eq_none_iff.mpr hu]

theorem composite_eq_error_iff {part : Except CompileError Criteria} {parts : List _}
    {composite : Criteria → List Criteria → Criteria} :
    (do return composite (← part) (← parts.mapM id)) = Except.error cause ↔
      (part :: parts).mapM id = .error cause := by
  rw [List.mapM_cons, id]
  cases part
  case error => simp [bind, Except.bind]
  case ok    => cases parts.mapM id <;> simp [bind, Except.bind, pure, Except.pure]

theorem join_eq_error_iff {parts : List (Except CompileError Criteria)} :
    join condition parts = .error cause ↔ parts ≠ [] ∧
      (condition ≠ .str "and" ∧ condition ≠ .str "or" ∧ cause = .unknownCondition condition ∨
        (condition = .str "and" ∨ condition = .str "or") ∧ parts.mapM id = .error cause) := by
  cases parts
  case nil => simp [join]
  case cons part parts =>
    by_cases ha : condition = .str "and"
    case pos =>
      rw [join, if_pos ha, composite_eq_error_iff]
      simp [ha]
    by_cases ho : condition = .str "or"
    case pos =>
      rw [join, if_neg ha, if_pos ho, composite_eq_error_iff]
      simp [ho]
    case neg => simp [join, ha, ho, eq_comm]

theorem fault_composite_iff (hc : ms.lookup "condition" = some condition)
    (hp : ms.lookup "criteria" = some (.list vs)) :
    Fault (.object ms) cause ↔ vs ≠ [] ∧
      condition ≠ .str "and" ∧ condition ≠ .str "or" ∧ cause = .unknownCondition condition := by
  constructor
  case mpr => exact fun ⟨hn, ha, ho, he⟩ => he ▸ .unknownCondition hc hp hn ha ho
  case mp =>
    intro h
    cases h
    case notObject h => exact absurd rfl (h ms)
    all_goals simp_all

theorem sound_composite_iff (hc : ms.lookup "condition" = some condition)
    (hp : ms.lookup "criteria" = some (.list vs)) :
    Sound (.object ms) ↔ vs = [] ∨ condition = .str "and" ∨ condition = .str "or" := by
  simp only [Sound, fault_composite_iff hc hp]
  constructor
  case mpr => grind
  case mp =>
    intro h
    have h := h (.unknownCondition condition)
    grind

theorem readNode_composite_eq_error_iff (hc : ms.lookup "condition" = some condition)
    (hp : ms.lookup "criteria" = some (.list vs)) :
    readNode (.object ms) = .error cause ↔
      Fault (.object ms) cause ∨ Sound (.object ms) ∧ vs.mapM readNode = .error cause := by
  have hm : (vs.map readNode).mapM id = vs.mapM readNode := by simp [List.mapM_map]
  rw [readNode_composite hc hp, join_eq_error_iff, hm, fault_composite_iff hc hp,
    sound_composite_iff hc hp, ne_eq, List.map_eq_nil_iff]
  by_cases hn : vs = []
  case pos => simp [hn, pure, Except.pure]
  case neg => simp only [ne_eq, hn, not_false_eq_true, true_and, false_or]

theorem fault_childless_iff (hc : ms.lookup "condition" = some condition)
    (hp : ∀ vs, ms.lookup "criteria" ≠ some (.list vs)) :
    Fault (.object ms) cause ↔ .noChildren condition = cause := by
  constructor
  case mpr => exact fun he => he ▸ .noChildren hc hp
  case mp =>
    intro h
    cases h
    case notObject h => exact absurd rfl (h ms)
    all_goals simp_all

theorem readNode_childless_eq_error_iff (hc : ms.lookup "condition" = some condition)
    (hp : ∀ vs, ms.lookup "criteria" ≠ some (.list vs)) :
    readNode (.object ms) = .error cause ↔ Fault (.object ms) cause := by
  have hn : readParts ms = none := Option.eq_none_iff_forall_ne_some.mpr fun parts h => by
    have ⟨vs, hv, _⟩ := readParts_eq_some_iff.mp h
    exact hp vs hv
  rw [fault_childless_iff hc hp]
  simp [readNode, hc, hn]

theorem fault_other_iff (h : ∀ ms, v ≠ .object ms) :
    Fault v cause ↔ .notObject v.kindName = cause := by
  constructor
  case mpr => exact fun he => he ▸ .notObject h
  case mp =>
    intro hf
    cases hf
    case notObject => rfl
    all_goals exact absurd rfl (h _)

theorem readNode_other_eq_error_iff (h : ∀ ms, v ≠ .object ms) :
    readNode v = .error cause ↔ Fault v cause := by
  rw [fault_other_iff h]
  cases v
  case object ms => exact absurd rfl (h ms)
  all_goals simp [readNode]

theorem readable_iff_of_errors
    (h : ∀ cause, readNode node = .error cause ↔ FirstFault (visited node) cause) :
    (∃ c, readNode node = .ok c) ↔ ∀ node' ∈ visited node, Sound node' := by
  rw [Outcome.exists_ok_iff, sound_iff_not_firstFault]
  exact forall_congr' fun cause => not_congr (h cause)

-- The error of a node is the first fault among the nodes that are visited.
theorem readNode_eq_error_iff :
    readNode node = .error cause ↔ FirstFault (visited node) cause := by
  induction node using nodeInduction generalizing cause
  case other v hv =>
    rw [visited_other hv, readNode_other_eq_error_iff hv]
    simp [firstFault_cons_iff]
  case object ms hi =>
    cases hc : ms.lookup "condition"
    case none =>
      rw [readNode_leaf hc, readLeaf_eq_error_iff hc, visited_leaf hc]
      simp [firstFault_cons_iff]
    case some condition =>
      by_cases hp : ∃ vs, ms.lookup "criteria" = some (.list vs)
      case neg =>
        have hp : ∀ vs, ms.lookup "criteria" ≠ some (.list vs) := fun vs hv => hp ⟨vs, hv⟩
        rw [readNode_childless_eq_error_iff hc hp, visited_childless hp]
        simp [firstFault_cons_iff]
      case pos =>
        have ⟨vs, hp⟩ := hp
        rw [readNode_composite_eq_error_iff hc hp, visited_composite hc hp, firstFault_cons_iff,
          firstFault_flatMap_iff, Outcome.mapM_eq_error_iff]
        -- The part that fails is the first one with a fault, as those before it are read and so have none.
        refine or_congr_right <| and_congr_right fun _ => exists₃_congr fun before v after => ?_
        refine and_congr_right fun hv => ?_
        have hi : ∀ part ∈ before ++ v :: after, ∀ cause,
            readNode part = .error cause ↔ FirstFault (visited part) cause :=
          fun part hm _ => hi vs hp part (hv ▸ hm)
        have hb : ∀ part ∈ before,
            ((∃ c, readNode part = .ok c) ↔ ∀ node ∈ visited part, Sound node) :=
          fun part hm => readable_iff_of_errors (hi part (List.mem_append_left _ hm))
        exact and_congr (forall₂_congr hb) (hi v (by simp) cause)

theorem exists_readNode_iff : (∃ c, readNode node = .ok c) ↔ ∀ node' ∈ visited node, Sound node' :=
  readable_iff_of_errors fun _ => readNode_eq_error_iff

theorem ofValue_object (h : ms ≠ []) :
    ofValue (.object ms) = (readNode (.object ms)).mapError .compile := by
  cases ms
  case nil  => exact absurd rfl h
  case cons => rfl

theorem queryCompile_of_compile (cause : CompileError) :
    ∃ kind, (Error.compile cause).kind? = some kind ∧ .queryCompile ∈ kind.lineage := by
  cases cause
  all_goals exact ⟨_, rfl, by simp [ErrorKind.lineage, ErrorKind.parent?]⟩

-- An object has a clause if it has no members or if no node that is visited has a fault. Otherwise the
-- first fault is the error, and no other kind of error is possible.
theorem compile_decided_by_firstFault (tuning : Tuning) (ms : List (String × Value)) :
    let criteria := Value.object ms
    let outcome := compile tuning criteria
    ((∃ sent, outcome = .ok sent) ↔ ms = [] ∨ ∀ node ∈ visited criteria, Sound node) ∧
    (∀ err, outcome = .error err ↔
      ms ≠ [] ∧ ∃ cause, FirstFault (visited criteria) cause ∧ err = .compile cause) ∧
    ∀ err, outcome = .error err → ∃ kind, err.kind? = some kind ∧ .queryCompile ∈ kind.lineage := by
  intro criteria outcome
  have ho : (∃ sent, outcome = .ok sent) ↔ ms = [] ∨ ∀ node ∈ visited criteria, Sound node := by
    simp only [outcome, compile, Outcome.map_eq_ok_iff]
    by_cases hm : ms = []
    case pos => simp [hm, criteria, ofValue]
    case neg => simp [hm, criteria, ofValue_object hm, Outcome.mapError_eq_ok_iff, exists_readNode_iff]
  have he : ∀ err, outcome = .error err ↔
      ms ≠ [] ∧ ∃ cause, FirstFault (visited criteria) cause ∧ err = .compile cause := by
    intro err
    simp only [outcome, compile, Outcome.map_eq_error_iff]
    by_cases hm : ms = []
    case pos => simp [hm, criteria, ofValue]
    case neg =>
      simp [hm, criteria, ofValue_object hm, Outcome.mapError_eq_error_iff, readNode_eq_error_iff,
        eq_comm (a := err)]
  refine ⟨ho, he, fun err h => ?_⟩
  obtain ⟨_, cause, _, rfl⟩ := (he err).mp h
  exact queryCompile_of_compile cause

theorem compile_incomplete_before_unknown :
    let leaf := Value.object [("fieldName", .str "size"), ("fieldValue", .null), ("operation", .str "Is")]
    let left := Value.object [("condition", .str "and"), ("criteria", .list [leaf, .int 5])]
    let right := Value.object [("condition", .str "xor"), ("criteria", .list [.object []])]
    let root := [("condition", Value.str "or"), ("criteria", .list [left, right])]
    compile {} (.object root) = .error (.compile (.incompleteLeaf ["fieldValue"])) := by
  intro leaf left right root
  have ⟨_, he, _⟩ := compile_decided_by_firstFault {} root
  have hroot : Sound (.object root) := (sound_composite_iff rfl rfl).mpr (.inr <| .inr rfl)
  have hleft : Sound left := (sound_composite_iff rfl rfl).mpr (.inr <| .inl rfl)
  have hleaf : Fault leaf (.incompleteLeaf ["fieldValue"]) := .incompleteLeaf rfl (by decide) (by decide)
  have hv : visited (.object root) = .object root :: left :: leaf :: .int 5 :: visited right := by rfl
  rw [he]
  exact ⟨by simp [root], _, hv ▸ .later hroot (.later hleft (.here hleaf)), rfl⟩

end CatalogSearch.Criteria
