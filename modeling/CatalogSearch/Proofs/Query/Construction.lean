import CatalogSearch.Query.Basic

namespace CatalogSearch

namespace QueryInput

def change (input : QueryInput) : QueryStep → QueryInput
  | .setCriteria criteria  => { input with criteria }
  | .setContext context    => { input with context }
  | .setBoost boost        => { input with boost }
  | .setFilter code values => { input with selection := input.selection.insert code values }
  | .addTransform code t   => { input with registry := input.registry.insert code t }
  | .build                 => input

def after (input : QueryInput) (steps : List QueryStep) : QueryInput :=
  steps.foldl change input

def Fruitless (input : QueryInput) (steps : List QueryStep) : Prop :=
  ∀ before rest, steps = before ++ .build :: rest → ∃ e, Query.build (input.after before) = .error e

variable {input : QueryInput}

theorem after_snoc : input.after (steps ++ [next]) = (input.after steps).change next := by
  simp [after]

theorem fruitless_nil : input.Fruitless [] := by
  simp [Fruitless]

theorem Fruitless.snoc (h : input.Fruitless steps)
    (hn : next = .build → ∃ e, Query.build (input.after steps) = .error e) :
    input.Fruitless (steps ++ [next]) := by
  intro before rest hs
  rcases List.eq_nil_or_concat rest with rfl | ⟨rest, last, rfl⟩
  case inl =>
    obtain ⟨rfl, hb⟩ := List.append_inj' hs rfl
    exact hn (List.singleton_inj.mp hb)
  case inr =>
    rw [List.concat_eq_append, ← List.cons_append, ← List.append_assoc] at hs
    exact h before rest (List.append_inj' hs rfl).left

end QueryInput

namespace QueryState

def after (s : QueryState) (steps : List QueryStep) : QueryState :=
  steps.foldl (fun s next => (s.step next).1) s

variable {s : QueryState} {input : QueryInput}

theorem step_change {next : QueryStep} (h : next ≠ .build) :
    s.step next = ({ s with input := s.input.change next }, .done) := by
  cases next
  case build => contradiction
  all_goals rfl

theorem step_built (h : s.built = some query) : s.step .build = (s, .query (.ok query) true) := by
  simp only [step, h]

theorem step_ok (h : s.built = none) (hb : Query.build s.input = .ok query) :
    s.step .build = ({ s with built := some query }, .query (.ok query) false) := by
  simp only [step, h, hb]

theorem step_error (h : s.built = none) (hb : Query.build s.input = .error e) :
    s.step .build = (s, .query (.error e) false) := by
  simp only [step, h, hb]

theorem run_append : s.run (before ++ rest) = s.run before ++ (s.after before).run rest := by
  induction before generalizing s
  case nil           => rfl
  case cons hd tl hi => exact congrArg _ hi

theorem run_length : (s.run steps).length = steps.length := by
  induction steps generalizing s
  case nil           => rfl
  case cons hd tl hi => exact congrArg (· + 1) hi

theorem answer_of_step :
    (s.run (before ++ next :: rest))[before.length]? = some ((s.after before).step next).2 := by
  rw [run_append, List.getElem?_append_right (Nat.le_of_eq run_length), run_length, Nat.sub_self]
  rfl

-- What a query under construction is after some steps from fresh inputs. It has been built if and only if
-- one of the builds was successful, and it is what the first of these resulted in.
structure Follows (s : QueryState) (start : QueryInput) (steps : List QueryStep) : Prop where
  input : s.input = start.after steps
  fresh : s.built = none → start.Fruitless steps
  built : ∀ query, s.built = some query → ∃ earlier between, steps = earlier ++ .build :: between ∧
    start.Fruitless earlier ∧ Query.build (start.after earlier) = .ok query

theorem follows_nil : Follows { input } input [] where
  input   := rfl
  fresh _ := QueryInput.fruitless_nil
  built   := by simp

theorem Follows.step (h : s.Follows input steps) : (s.step next).1.Follows input (steps ++ [next]) := by
  -- What was built before stays the query of the same earlier build.
  have kept : ∀ query, s.built = some query → ∃ earlier between,
      steps ++ [next] = earlier ++ .build :: between ∧
        input.Fruitless earlier ∧ Query.build (input.after earlier) = .ok query := by
    intro query hq
    obtain ⟨earlier, between, rfl, he⟩ := h.built query hq
    exact ⟨earlier, between ++ [next], by simp, he⟩
  have hi : (input.after steps).change next = input.after (steps ++ [next]) := QueryInput.after_snoc.symm
  by_cases hn : next = .build
  case neg =>
    rw [step_change hn]
    exact {
      input       := h.input ▸ hi
      fresh hq    := (h.fresh hq).snoc fun hb => absurd hb hn
      built query := kept query }
  case pos =>
    subst hn
    cases hq : s.built
    case some query =>
      rw [step_built hq]
      exact { input := h.input ▸ hi, fresh := by simp [hq], built := kept }
    case none =>
      cases hb : Query.build s.input
      case error e =>
        rw [step_error hq hb]
        have he : Query.build (input.after steps) = .error e := h.input ▸ hb
        exact {
          input       := h.input ▸ hi
          fresh _     := (h.fresh hq).snoc fun _ => ⟨e, he⟩
          built query := kept query }
      case ok query =>
        rw [step_ok hq hb]
        refine { input := h.input ▸ hi, fresh := by simp, built := ?_ }
        intro query' hq'
        obtain rfl := Option.some.inj hq'
        exact ⟨steps, [], rfl, h.fresh hq, h.input ▸ hb⟩

theorem Follows.after (h : s.Follows input done) : (s.after steps).Follows input (done ++ steps) := by
  induction steps generalizing s done
  case nil           => exact (List.append_nil done).symm ▸ h
  case cons hd tl hi => exact List.append_cons .. ▸ hi h.step

-- A build that no successful one came before results in what the inputs are worth at this moment, and
-- leaves nothing behind if it fails. After a successful build every build results in the first query that
-- was built, whatever has changed since.
theorem first_success_kept (input : QueryInput) (before rest : List QueryStep) :
    ∃ answer, (run { input } (before ++ .build :: rest))[before.length]? = some answer ∧
      ((input.Fruitless before ∧ answer = .query (Query.build (input.after before)) false ∧
          ∀ e, Query.build (input.after before) = .error e →
            (after { input } (before ++ [.build])).built = none) ∨
        ∃ earlier between query, before = earlier ++ .build :: between ∧ input.Fruitless earlier ∧
          Query.build (input.after earlier) = .ok query ∧ answer = .query (.ok query) true) := by
  refine ⟨_, answer_of_step, ?_⟩
  have h : (after { input } before).Follows input before := follows_nil.after
  have hs : after { input } (before ++ [.build]) = ((after { input } before).step .build).1 := by
    simp [after]
  cases hq : (after { input } before).built
  case some query =>
    obtain ⟨earlier, between, he, hf, hb⟩ := h.built query hq
    exact .inr ⟨earlier, between, query, he, hf, hb, by rw [step_built hq]⟩
  case none =>
    refine .inl ⟨h.fresh hq, ?_⟩
    rw [hs, ← h.input]
    cases hb : Query.build (after { input } before).input
    case ok query => simp [step_ok hq hb]
    case error e  => simp [step_error hq hb, hq]

example :
    let query : Query := ⟨.anything, .anything, .anything, none⟩
    run ⟨{ criteria := .int 5 }, none⟩
      [.build, .setCriteria .null, .build, .setCriteria (.int 5), .build] =
    [.query (.error (.misuse .noSuchPart)) false, .done, .query (.ok query) false, .done,
      .query (.ok query) true] :=
  rfl

end QueryState
end CatalogSearch
