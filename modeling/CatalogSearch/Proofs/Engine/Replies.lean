import CatalogSearch.Proofs.Engine.Search

namespace CatalogSearch.Engine

-- Why a reply to the request for a selection is refused: the client has failed, the reply is an error or
-- does not tell the number of hits, or one of the facets that are looked at cannot be read.
inductive Refuses (registry : Registry) (selection : Selection) : Except Error Value → Error → Prop
  | failed : Refuses registry selection (.error err) err
  | payload (h : Response.ofReply reply = .error err) : Refuses registry selection (.ok reply) err
  | total (ho : Response.ofReply reply = .ok response) (h : response.total = .error cause) :
    Refuses registry selection (.ok reply) (.misuse cause)
  | facets (ho : Response.ofReply reply = .ok response) (ht : response.total = .ok total)
    (h : response.facetFields registry selection.keys = .error err) :
    Refuses registry selection (.ok reply) err

def Accepted (registry : Registry) (exchange : Selection × Except Error Value) : Prop :=
  ∀ err, ¬Refuses registry exchange.1 exchange.2 err

def readHits (reply : Except Error Value) : Except Error (Response × Int) := do
  let response ← Response.ofReply (← reply)
  let total ← (liftM response.total : Except Error Int)
  return (response, total)

def findings (e : Engine) (selection : Selection) (reply : Except Error Value) : Except Error Findings := do
  let (response, total) ← readHits reply
  return { response, total, facets := ← response.facetFields e.registry selection.keys }

def allFindings (e : Engine) (exchanges : List (Selection × Except Error Value)) :
    List (Except Error Findings) :=
  exchanges.map fun exchange => e.findings exchange.1 exchange.2

def facetsOf (code : String) (f : Findings) : List FacetField :=
  f.facets.filter (·.code = code)

variable {e : Engine}

theorem findings_eq_error_iff :
    e.findings selection reply = .error err ↔ Refuses e.registry selection reply err := by
  simp only [findings, readHits, Outcome.bind_eq_error_iff, Outcome.bind_eq_ok_iff, liftM, monadLift,
    MonadLift.monadLift, Outcome.mapError_eq_error_iff, Outcome.mapError_eq_ok_iff, pure, Except.pure]
  constructor
  case mp =>
    rintro ((rfl | ⟨reply, rfl, ho | ⟨response, ho, ⟨cause, ht, rfl⟩ | ⟨_, _, ⟨⟩⟩⟩⟩) |
      ⟨_, ⟨reply, rfl, response, ho, total, ht, ⟨⟩⟩, hf | ⟨_, _, ⟨⟩⟩⟩)
    · exact .failed
    · exact .payload ho
    · exact .total ho ht
    · exact .facets ho ht hf
  case mpr =>
    rintro (_ | ho | ⟨ho, ht⟩ | ⟨ho, ht, hf⟩)
    · exact .inl <| .inl rfl
    · exact .inl <| .inr ⟨_, rfl, .inl ho⟩
    · exact .inl <| .inr ⟨_, rfl, .inr ⟨_, ho, .inl ⟨_, ht, rfl⟩⟩⟩
    · exact .inr ⟨_, ⟨_, rfl, _, ho, _, ht, rfl⟩, .inl hf⟩

theorem reply_of_findings (h : e.findings selection reply = .ok f) : reply = .ok f.response.reply := by
  simp only [findings, readHits, Outcome.bind_eq_ok_iff, pure, Except.pure] at h
  obtain ⟨_, ⟨v, rfl, response, ho, total, _, ⟨⟩⟩, facets, _, ⟨⟩⟩ := h
  rw [Response.reply_of_ofReply ho]

section

variable {exchange : Selection × Except Error Value} {exchanges : List (Selection × Except Error Value)}

theorem allFindings_cons : e.allFindings ((selection, reply) :: exchanges) =
    e.findings selection reply :: e.allFindings exchanges :=
  rfl

theorem accepted_iff :
    Accepted e.registry exchange ↔ ∃ f, e.findings exchange.1 exchange.2 = .ok f := by
  rw [Outcome.exists_ok_iff]
  exact forall_congr' fun err => not_congr findings_eq_error_iff.symm

theorem allFindings_eq_error_iff : (e.allFindings exchanges).mapM id = .error err ↔
    ∃ before selection reply after, exchanges = before ++ (selection, reply) :: after ∧
      (∀ exchange ∈ before, Accepted e.registry exchange) ∧
      Refuses e.registry selection reply err := by
  rw [allFindings, List.mapM_map, Outcome.mapM_eq_error_iff]
  simp only [accepted_iff, ← findings_eq_error_iff, id, Prod.exists, Function.comp]

theorem exists_allFindings_iff : (∃ found, (e.allFindings exchanges).mapM id = .ok found) ↔
    ∀ exchange ∈ exchanges, Accepted e.registry exchange := by
  rw [allFindings, List.mapM_map]
  simp only [accepted_iff]
  constructor
  case mpr => exact Outcome.exists_mapM_eq_ok
  case mp =>
    intro ⟨found, h⟩ exchange hm
    have ⟨f, _, hf⟩ := Outcome.exists_outcome_of_mem (Outcome.mapM_eq_ok_iff.mp h) hm
    exact ⟨f, hf⟩

theorem exists_refusal_or_accepted (e : Engine) (exchanges : List (Selection × Except Error Value)) :
    (∃ err before selection reply after, exchanges = before ++ (selection, reply) :: after ∧
      (∀ exchange ∈ before, Accepted e.registry exchange) ∧
      Refuses e.registry selection reply err) ∨
    ∀ exchange ∈ exchanges, Accepted e.registry exchange := by
  cases hm : (e.allFindings exchanges).mapM id
  case error err => exact .inl ⟨err, allFindings_eq_error_iff.mp hm⟩
  case ok found  => exact .inr <| exists_allFindings_iff.mp ⟨found, hm⟩

theorem successes_of_refusal (hb : ∀ exchange ∈ before, Accepted e.registry exchange)
    (hr : Refuses e.registry selection reply err) :
    Outcome.successes (e.allFindings (before ++ (selection, reply) :: after)) = before.length := by
  rw [allFindings, List.map_append, List.map_cons, findings_eq_error_iff.mpr hr,
    Outcome.successes_of_error, List.length_map]
  exact List.forall_mem_map.mpr fun exchange hm => accepted_iff.mp (hb exchange hm)

end

end CatalogSearch.Engine
