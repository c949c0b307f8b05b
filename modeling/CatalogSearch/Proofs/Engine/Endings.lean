import CatalogSearch.Proofs.Engine.Decoding

namespace CatalogSearch

namespace Dialogue

variable {N Q α β σ : Type} {A : Q → Type}

def Ends (Fair : Error → Prop) (Post : Except Error α → Prop) : Dialogue N Q A α → Prop
  | .done outcome => Post outcome
  | .note _ rest  => Ends Fair Post rest
  | .ask _ next   => ∀ reply, (∀ err, reply = .error err → Fair err) → Ends Fair Post (next reply)

def Fails (Fair : Error → Prop) (outcome : Except Error α) : Prop :=
  ∀ err, outcome = .error err → Fair err

variable {Fair : Error → Prop} {Post : Except Error α → Prop} {Post' : Except Error β → Prop}
  {d : Dialogue N Q A α} {f : α → Dialogue N Q A β}

theorem Ends.bind (h : d.Ends Fair Post) (he : ∀ err, Post (.error err) → Post' (.error err))
    (hf : ∀ x, Post (.ok x) → (f x).Ends Fair Post') : (d >>= f).Ends Fair Post' := by
  change (d.bind f).Ends Fair Post'
  induction d
  case done outcome =>
    cases outcome
    case error err => exact he err h
    case ok x      => exact hf x h
  case note n rest hi => exact hi h
  case ask q next hi  => exact fun reply hr => hi reply (h reply hr)

theorem Ends.attempt (h : d.Ends Fair Post) :
    d.attempt.Ends Fair (fun outcome => ∃ o, outcome = .ok o ∧ Post o) := by
  induction d
  case done outcome   => exact ⟨outcome, rfl, h⟩
  case note n rest hi => exact hi h
  case ask q next hi  => exact fun reply hr => hi reply (h reply hr)

theorem Ends.run {partner : σ → (q : Q) → Except Error (A q) × σ} (h : d.Ends Fair Post)
    (hp : ∀ s q err, (partner s q).1 = .error err → Fair err) (s : σ) : Post (d.run partner s).outcome := by
  induction d generalizing s
  case done outcome   => exact h
  case note n rest hi => exact hi h s
  case ask q next hi  => exact hi _ (h _ (hp s q)) _

theorem ends_bind (h : d.Ends Fair (Fails Fair)) (hf : ∀ x, (f x).Ends Fair (Fails Fair)) :
    (d >>= f).Ends Fair (Fails Fair) :=
  h.bind (fun err he _ ho => Except.error.inj ho ▸ he err rfl) fun x _ => hf x

theorem ends_liftM {outcome : Except Error α} (h : Fails Fair outcome) :
    (liftM outcome : Dialogue N Q A α).Ends Fair (Fails Fair) :=
  h

theorem ends_remark (n : N) : (remark n : Dialogue N Q A Unit).Ends Fair (Fails Fair) :=
  nofun

theorem ends_pure (x : α) : (pure x : Dialogue N Q A α).Ends Fair (Fails Fair) :=
  nofun

theorem ends_question (q : Q) : (question q : Dialogue N Q A (A q)).Ends Fair (Fails Fair) :=
  fun _ hr => hr

end Dialogue

namespace Response

theorem fails_ofReply (reply : Value) : Dialogue.Fails Error.FromIndex (ofReply reply) := by
  intro err h
  rcases Outcome.bind_eq_error_iff.mp h with h | ⟨found, _, h⟩
  case inl =>
    obtain ⟨_, _, rfl⟩ := Outcome.liftM_eq_error_iff.mp h
    exact .misuse
  case inr =>
    split at h
    case h_3 => cases h; exact .engine
    all_goals cases h

theorem fails_facetFields (r : Response) (registry : Registry) (without : List String) :
    Dialogue.Fails Error.FromIndex (r.facetFields registry without) := by
  intro err h
  rcases Outcome.bind_eq_error_iff.mp h with h | ⟨found, _, h⟩
  case inl =>
    obtain ⟨_, _, rfl⟩ := Outcome.liftM_eq_error_iff.mp h
    exact .misuse
  case inr =>
    simp only at h
    split at h
    case isFalse => cases h
    case isTrue =>
      split at h
      case h_2 => cases h; exact .misuse
      case h_1 =>
        obtain ⟨_, field, _, _, _, hf⟩ := Outcome.mapM_eq_error_iff.mp h
        exact (facetField_eq_error_iff.mp hf).fromIndex

end Response

theorem Outcome.fails_liftM {α : Type} (x : Except Misuse α) :
    Dialogue.Fails Error.FromIndex (liftM x : Except Error α) := by
  intro err h
  obtain ⟨_, _, rfl⟩ := liftM_eq_error_iff.mp h
  exact .misuse

namespace Engine

open Dialogue

variable {e : Engine} {options : SearchOptions} {ds : List (Conversation α)}

abbrev EndsWell (d : Conversation α) : Prop :=
  d.Ends Error.FromIndex (Fails Error.FromIndex)

theorem endsWell_search {r : Request} (hr : e.request criteria options selection = .ok r) :
    EndsWell (e.search criteria options selection) := by
  refine ends_bind (ends_liftM (by rw [hr]; nofun)) fun request => ?_
  refine ends_bind (ends_remark _) fun _ => ends_bind (ends_question _) fun reply => ?_
  refine ends_bind (ends_liftM (Response.fails_ofReply reply)) fun response => ?_
  exact ends_bind (ends_liftM (Outcome.fails_liftM _)) fun total => ends_bind (ends_remark _) fun _ => ends_pure _

theorem endsWell_inTurn (h : ∀ d ∈ ds, EndsWell d) : EndsWell (inTurn ds) := by
  induction ds
  case nil => exact ends_pure []
  case cons d ds hi =>
    have ⟨hd, hds⟩ := List.forall_mem_cons.mp h
    exact ends_bind hd fun x => ends_bind (hi hds) fun xs => ends_pure _

theorem ends_attemptAll (h : ∀ d ∈ ds, EndsWell d) : (attemptAll ds).Ends Error.FromIndex fun outcome =>
    ∃ os, outcome = .ok os ∧ ∀ o ∈ os, Fails Error.FromIndex o := by
  induction ds
  case nil => exact ⟨[], rfl, List.forall_mem_nil _⟩
  case cons d ds hi =>
    have ⟨hd, hds⟩ := List.forall_mem_cons.mp h
    refine hd.attempt.bind ?_ ?_
    case refine_1 => rintro _ ⟨_, ⟨⟩, _⟩
    case refine_2 =>
      rintro o ⟨_, ⟨⟩, ho⟩
      refine (hi hds).bind ?_ ?_
      case refine_1 => rintro _ ⟨_, ⟨⟩, _⟩
      case refine_2 =>
        rintro os ⟨_, ⟨⟩, hos⟩
        exact ⟨o :: os, rfl, List.forall_mem_cons.mpr ⟨ho, hos⟩⟩

theorem endsWell_together (h : ∀ d ∈ ds, EndsWell d) : EndsWell (together ds) := by
  refine (ends_attemptAll h).bind nofun ?_
  rintro os ⟨_, ⟨⟩, hos⟩
  rw [mapM_liftM]
  refine ends_liftM fun err he => ?_
  obtain ⟨_, o, _, rfl, _, ho⟩ := Outcome.mapM_eq_error_iff.mp he
  exact hos o (by simp) err ho

theorem endsWell_gather (h : ∀ d ∈ ds, EndsWell d) : EndsWell (e.gather ds) := by
  refine ends_bind (ends_liftM (Outcome.fails_liftM _)) fun order => ?_
  split
  case isTrue  => exact endsWell_together h
  case isFalse => exact endsWell_inTurn h

-- A search whose main request has been built only fails by what comes from the index.
theorem endsWell_query {r : Request} (hr : e.request criteria options options.selection = .ok r) :
    EndsWell (e.query criteria options) := by
  have hs : ∀ d ∈ e.siblings criteria options, EndsWell d := by
    intro d hd
    obtain ⟨code, hc, rfl⟩ := List.mem_map.mp hd
    obtain ⟨requests, hs⟩ := exists_requests hr
    obtain ⟨_, _, hr⟩ := Outcome.exists_outcome_of_mem (Outcome.mapM_eq_ok_iff.mp hs) hc
    refine ends_bind (ends_remark _) fun _ => ends_bind (endsWell_search hr) fun found => ?_
    exact ends_bind (ends_liftM (Response.fails_facetFields _ _ _)) fun fields => ends_pure _
  refine ends_bind ?main fun found => ends_bind (endsWell_gather hs) fun selected => ?_
  case main =>
    refine ends_bind (endsWell_search hr) fun found => ?_
    exact ends_bind (ends_liftM (Response.fails_facetFields _ _ _)) fun facets => ends_pure _
  exact ends_liftM (Outcome.fails_liftM _)

end Engine
end CatalogSearch
