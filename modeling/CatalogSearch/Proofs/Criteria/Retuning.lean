import CatalogSearch.Criteria.Basic
import CatalogSearch.Proofs.Outcome

namespace CatalogSearch

def Atom.retune (tuning : Tuning) : Atom → Atom
  | .words _ query every => .words tuning.searchFields query every
  | .phrase _ text       => .phrase tuning.phraseField text
  | a                    => a

variable {tuning : Tuning}

theorem Operator.clause_retune (tuning' : Tuning) (o : Operator) :
    (o.clause tuning field value).map (.retune tuning') = o.clause tuning' field value := by
  cases o
  case fullText => by_cases h : Phrase.isQuoted value <;> simp [clause, h, Clause.map, Clause.mapAll, Atom.retune]
  all_goals rfl

namespace Criteria

mutual

theorem clause_retune (tuning' : Tuning) :
    ∀ c : Criteria, (c.clause tuning).map (.retune tuning') = c.clause tuning'
  | .everything       => rfl
  | .leaf operator .. => operator.clause_retune tuning'
  | .all first rest   => by
    simp only [clause, Clause.map, Clause.mapAll, clause_retune tuning' first, clauses_retune tuning' rest]
  | .any first rest   => by
    simp only [clause, Clause.map, Clause.mapAll, clause_retune tuning' first, clauses_retune tuning' rest]

theorem clauses_retune (tuning' : Tuning) :
    ∀ cs : List Criteria, Clause.mapAll (.retune tuning') (clauses tuning cs) = clauses tuning' cs
  | []      => rfl
  | c :: cs => by simp only [clauses, Clause.mapAll, clause_retune tuning' c, clauses_retune tuning' cs]

end

theorem compile_retune (tuning tuning' : Tuning) (criteria : Value) :
    (compile tuning criteria).map (Clause.map (.retune tuning')) = compile tuning' criteria := by
  simp only [compile]
  cases ofValue criteria
  case error => rfl
  case ok c  => exact congrArg Except.ok (c.clause_retune tuning')

-- Criteria are refused under a tuning if and only if they are refused without it, and for the same reason.
-- Otherwise their clause is the one that they have without it, in which the fields of words and of phrases
-- are those of the tuning. The standard fields are those that clauses have anyway.
theorem retuned_locally (tuning : Tuning) (criteria : Value) :
    (∀ err, compile tuning criteria = .error err ↔ compile {} criteria = .error err) ∧
    (∀ sent, compile tuning criteria = .ok sent ↔
      ∃ standard, compile {} criteria = .ok standard ∧ standard.map (.retune tuning) = sent) ∧
    (compile {} criteria).map (Clause.map (.retune {})) = compile {} criteria := by
  have h : (compile {} criteria).map (Clause.map (.retune tuning)) = compile tuning criteria :=
    compile_retune {} tuning criteria
  refine ⟨fun err => ?refused, fun sent => ?sent, compile_retune {} {} criteria⟩
  case refused => rw [← h, Outcome.map_eq_error_iff]
  case sent    => rw [← h, Outcome.map_eq_ok_iff]

end Criteria
end CatalogSearch
