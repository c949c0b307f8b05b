import CatalogSearch.Proofs.Engine.Gathering
import CatalogSearch.Proofs.Engine.Pool

namespace CatalogSearch.Engine

-- An execution with its outcome, and what it has sent in the order of time. The client knows the
-- requests apart: the main one has number zero, and those for the selected codes follow in the order of
-- selection.
inductive Execution (e : Engine) (client : Nat → Call → Except Error Value) (criteria : Value)
    (options : SearchOptions) : Except Error SearchResult → List Call → Prop
  -- Each question waits for the answer to the one before.
  | alone (h : (e.query criteria options).run (Dialogue.numbered client) 0 = t) :
    Execution e client criteria options t.outcome t.asked
  -- The outcomes are gathered in the order of selection, after all of them are there.
  | pooled {workers : Nat}
    (hw : e.workers = .int workers) (hl : 1 < workers) (hk : 1 < options.selection.keys.length)
    (hm : ((e.main criteria options).against (client 0)).outcome = .ok found)
    (hs : Pool.Steps workers (fun i => client (i + 1)) (Pool.start (e.siblings criteria options)) p)
    (hf : p.Finished outcomes) :
    Execution e client criteria options
      (outcomes.mapM id >>= fun selected => liftM (found.result selected))
      (((e.main criteria options).against (client 0)).asked ++ p.sent)

variable {partner : σ → Call → Except Error Value × σ} {s : σ}

theorem query_ok {e : Engine} (h : ((e.query criteria options).run partner s).outcome = .ok result) :
    ∃ found selected, ((e.main criteria options).run partner s).outcome = .ok found ∧
      ((inTurn (e.siblings criteria options)).run partner
        ((e.main criteria options).run partner s).state).outcome = .ok selected ∧
      found.result selected = .ok result := by
  simp only [query, Dialogue.run_bind, Transcript.andThen_outcome_eq_ok_iff, Dialogue.run_liftM] at h
  have ⟨found, hf, selected, hs, hr⟩ := h
  refine ⟨found, selected, hf, inTurn_of_gather hs ▸ hs, Outcome.mapError_eq_ok_iff.mp hr⟩

end CatalogSearch.Engine
