import CatalogSearch.Engine.Basic
import CatalogSearch.Proofs.Engine.Dialogue

namespace CatalogSearch.Engine

variable {ds : List (Conversation α)}

section

variable {partner : σ → Call → Except Error Value × σ} {s : σ}

theorem together_run (ds : List (Conversation α)) :
    (together ds).run partner s =
      ((attemptAll ds).run partner s).andThen fun os s =>
        { outcome := os.mapM id, asked := [], notes := [], state := s } := by
  rw [together, Dialogue.run_bind]
  simp only [Dialogue.mapM_liftM, Dialogue.run_liftM]

theorem inTurn_of_attemptAll (h : ((attemptAll ds).run partner s).outcome = .ok os)
    (ho : os.mapM id = .ok xs) :
    (inTurn ds).run partner s = { (attemptAll ds).run partner s with outcome := .ok xs } := by
  induction ds generalizing s os xs
  case nil =>
    cases h
    cases ho
    rfl
  case cons d ds hi =>
    simp only [attemptAll, Dialogue.run_bind, Transcript.andThen_outcome_eq_ok_iff, Dialogue.run_attempt,
      Dialogue.run_pure] at h
    have ⟨o, hd, os, hs, he⟩ := h
    cases he
    cases hd
    obtain ⟨x, xs, hx, hxs, rfl⟩ := Outcome.mapM_cons_eq_ok_iff.mp ho
    have hd : (d.run partner s).outcome = .ok x := hx
    simp only [inTurn, attemptAll, Dialogue.run_bind, Transcript.andThen, Dialogue.run_attempt,
      Dialogue.run_pure, hd, hi hs hxs, hs]

theorem inTurn_of_together (h : ((together ds).run partner s).outcome = .ok xs) :
    (inTurn ds).run partner s = (together ds).run partner s := by
  rw [together_run] at h ⊢
  have ⟨os, ho, hm⟩ := Transcript.andThen_outcome_eq_ok_iff.mp h
  rw [inTurn_of_attemptAll ho hm, Transcript.andThen_of_ok ho]
  simp [show os.mapM id = .ok xs from hm]

theorem inTurn_of_gather {e : Engine} (h : ((e.gather ds).run partner s).outcome = .ok xs) :
    (inTurn ds).run partner s = (e.gather ds).run partner s := by
  rw [gather, Dialogue.run_bind] at h ⊢
  have ⟨order, ho, h⟩ := Transcript.andThen_outcome_eq_ok_iff.mp h
  rw [Transcript.andThen_of_ok ho]
  by_cases hw : order = some .gt ∧ 1 < ds.length
  case pos =>
    rw [if_pos hw] at h
    simpa [if_pos hw] using inTurn_of_together h
  case neg => simp [if_neg hw]

end

section

variable (client : Call → Except Error Value)

theorem inTurn_outcome (ds : List (Conversation α)) :
    ((inTurn ds).against client).outcome = ds.mapM fun d => (d.against client).outcome := by
  induction ds
  case nil => rfl
  case cons d ds hi =>
    simp only [inTurn, Dialogue.against_bind, Transcript.andThen_outcome, Dialogue.against_pure, hi,
      List.mapM_cons]
    rfl

theorem inTurn_asked (h : ((inTurn ds).against client).outcome = .ok xs) :
    ((inTurn ds).against client).asked = ds.flatMap fun d => (d.against client).asked := by
  induction ds generalizing xs
  case nil => rfl
  case cons d ds hi =>
    rw [inTurn, Dialogue.against_bind] at h ⊢
    have ⟨x, hd, h⟩ := Transcript.andThen_outcome_eq_ok_iff.mp h
    rw [Dialogue.against_bind] at h
    obtain ⟨xs, hs, -⟩ := Transcript.andThen_outcome_eq_ok_iff.mp h
    rw [Transcript.andThen_of_ok hd, Dialogue.against_bind, Transcript.andThen_of_ok hs]
    simp [hi hs]

theorem attemptAll_against (ds : List (Conversation α)) :
    ((attemptAll ds).against client).outcome = .ok (ds.map fun d => (d.against client).outcome) ∧
    ((attemptAll ds).against client).asked = ds.flatMap fun d => (d.against client).asked := by
  induction ds
  case nil => exact ⟨rfl, rfl⟩
  case cons d ds hi =>
    have hd : d.attempt.against client =
        { d.against client with outcome := .ok (d.against client).outcome } :=
      Dialogue.run_attempt d
    simp only [attemptAll, Dialogue.against_bind, hd, Transcript.andThen, hi.left, hi.right,
      Dialogue.against_pure, List.append_nil, List.map_cons, List.flatMap_cons, and_self]

theorem together_against (ds : List (Conversation α)) :
    ((together ds).against client).outcome = ds.mapM (fun d => (d.against client).outcome) ∧
    ((together ds).against client).asked = ds.flatMap fun d => (d.against client).asked := by
  have ⟨ho, ha⟩ := attemptAll_against client ds
  rw [together, Dialogue.against_bind, Transcript.andThen_of_ok ho, Dialogue.mapM_liftM]
  simp [ha, List.mapM_map]

theorem gather_of_int {e : Engine} (hw : e.workers = .int n) (ds : List (Conversation α)) :
    e.gather ds = together ds ∨ e.gather ds = inTurn ds := by
  rw [gather, hw]
  exact ite_eq_or_eq (some (compare n 1) = some .gt ∧ 1 < ds.length) (together ds) (inTurn ds)

-- The number of workers makes no difference to the outcome, nor to what is asked if nothing fails.
theorem gather_outcome {e : Engine} (hw : e.workers = .int n) (ds : List (Conversation α)) :
    ((e.gather ds).against client).outcome = ds.mapM fun d => (d.against client).outcome := by
  rcases gather_of_int hw ds with hg | hg
  case inl => exact hg ▸ (together_against client ds).left
  case inr => exact hg ▸ inTurn_outcome client ds

theorem gather_asked {e : Engine} (hw : e.workers = .int n)
    (h : ((e.gather ds).against client).outcome = .ok xs) :
    ((e.gather ds).against client).asked = ds.flatMap fun d => (d.against client).asked := by
  rcases gather_of_int hw ds with hg | hg <;> rw [hg] at h ⊢
  case inl => exact (together_against client ds).right
  case inr => exact inTurn_asked client h

end

end CatalogSearch.Engine
