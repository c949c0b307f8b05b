import CatalogSearch.Http.Client
import CatalogSearch.Proofs.Http.Title
import CatalogSearch.Proofs.Json

namespace CatalogSearch.Http

-- What is said of a page in place of JSON: the title of the page without blanks around it, or else where it is from.
inductive Explains (url page : String) : String → Prop
  | title (h : Title.FirstTitle page.toList title) : Explains url page (strip (String.ofList title))
  | untitled (h : ∀ before title, ¬Title.Titled page.toList before title) :
      Explains url page ("Invalid JSON response from " ++ url)

def IsExplained (r : HttpRequest) (page : String) (outcome : Except Error α) : Prop :=
  ∃ message, outcome = .error (.connection message) ∧ Explains r.url page message

theorem exists_notJson_eq (r : HttpRequest) (page : String) :
    ∃ message, notJson r page = .connection message ∧ Explains r.url page message := by
  by_cases h : ∃ before title, Title.Titled page.toList before title
  case pos =>
    have ⟨before, _, ht⟩ := h
    have ⟨title, hf, he⟩ := Title.exists_find?_eq ht
    exact ⟨_, by rw [notJson, he]; rfl, .title hf⟩
  case neg =>
    simp only [not_exists] at h
    exact ⟨_, by rw [notJson, Title.find?_eq_none h]; rfl, .untitled h⟩

theorem exists_read_eq_error (h : ¬Json.IsJson page.toList) (nesting : Nat) :
    ∃ fault, Json.read page nesting = .error fault ∧ fault ≠ .unpaired := by
  cases hr : Json.read page nesting
  case error fault => exact ⟨fault, rfl, fun hf => h (Json.isJson_of_unpaired (hf ▸ hr))⟩
  case ok          => exact absurd (Json.isJson_of_read hr) h

theorem decode_eq_of_ne (h : Json.read page nesting = .error fault) (hu : fault ≠ .unpaired)
    (hf : fault ≠ .deepNesting) (r : HttpRequest) : decode nesting r (.body page) = .error (notJson r page) := by
  cases fault
  case deepNesting => exact absurd rfl hf
  case unpaired    => exact absurd rfl hu
  all_goals rw [decode, h]

theorem decode_eq_of_deepNesting (h : Json.read page nesting = .error .deepNesting) (r : HttpRequest) :
    decode nesting r (.body page) = .error (.misuse .tooDeep) := by
  rw [decode, h]

variable {partner : σ → HttpRequest → Except Error HttpReply × σ} {s : σ}

theorem run_exchange (hr : request c call = .ok r) (hp : (partner s r).1 = .ok reply) :
    ((exchange c (.question call)).run partner s).asked = [r] ∧
    ((exchange c (.question call)).run partner s).outcome = decode c.nesting r reply := by
  have hw : wording c call = .ok { question := r, notes := [line r], understand := decode c.nesting r } := by
    rw [wording, hr]
    rfl
  simp only [exchange, Dialogue.question, Dialogue.reword, hw, Dialogue.noteAll, Dialogue.run, hp]
  trivial

-- The error for a reply that is not JSON is one of the connection, and it is explained by the leftmost and shortest
-- title of the page, unless the reader gives up on brackets too deep inside of one another.
theorem unreadable_explained_iff (hn : ¬Json.IsJson page.toList) (hr : request c call = .ok r)
    (hp : (partner s r).1 = .ok (.body page)) :
    let t := (exchange c (.question call)).run partner s
    t.asked = [r] ∧
    (IsExplained r page t.outcome ↔ Json.read page c.nesting ≠ .error .deepNesting) ∧
    (Json.read page c.nesting = .error .deepNesting →
      c.nesting < Json.openings page.toList ∧ t.outcome = .error (.misuse .tooDeep)) ∧
    ∀ title, Title.FirstTitle page.toList title ↔ Title.LeftmostTitle page.toList title := by
  intro t
  obtain ⟨ha, ho⟩ := run_exchange hr hp
  refine ⟨ha, ⟨fun h hd => ?deep, fun hd => ?explained⟩, fun hd => ⟨Json.lt_openings_of_read hd, ?gone⟩,
    fun title => Title.firstTitle_iff_leftmost⟩
  case deep =>
    have ⟨_, he, _⟩ := h
    rw [ho, decode_eq_of_deepNesting hd] at he
    cases he
  case explained =>
    have ⟨fault, hf, hu⟩ := exists_read_eq_error hn c.nesting
    have ⟨message, hm, he⟩ := exists_notJson_eq r page
    exact ⟨message, by rw [ho, decode_eq_of_ne hf hu (fun h => hd (h ▸ hf)), hm], he⟩
  case gone => rw [ho, decode_eq_of_deepNesting hd]

theorem unreadable_explained_two_titles :
    let r : HttpRequest := ⟨"POST", url "http://h/i" ["_search"], .null, .int 30⟩
    let page := "<HTML><TITLE> 502 Bad\nGateway </Title><title>x</title>"
    let t := (exchange { path := "http://h/i" } (.question (.select .null))).run prepared [.body page]
    IsExplained r page t.outcome := by
  intro r page t
  have hn : ¬Json.IsJson page.toList :=
    have hh : page.toList.head? = some '<' := by decide +kernel
    Json.not_isJson_of_head? hh (by decide) (by decide) (by decide)
  have hr : request { path := "http://h/i" } (.select .null) = .ok r := rfl
  have hp : (prepared [.body page] r).1 = .ok (.body page) := rfl
  have ⟨_, hi, hd, _⟩ := unreadable_explained_iff hn hr hp
  exact hi.mpr fun h => absurd (hd h).left (by decide +kernel)

theorem not_explained_brackets :
    let r : HttpRequest := ⟨"POST", url "http://h/i" ["_search"], .null, .int 30⟩
    let page := String.ofList (List.replicate 3000 '[')
    let t := (exchange { path := "http://h/i" } (.question (.select .null))).run prepared [.body page]
    ¬Json.IsJson page.toList ∧ ¬IsExplained r page t.outcome := by
  intro r page t
  have hd : Json.read page = .error .deepNesting := Json.read_brackets (by decide)
  have hr : request { path := "http://h/i" } (.select .null) = .ok r := rfl
  have hp : (prepared [.body page] r).1 = .ok (.body page) := rfl
  have ⟨_, ho⟩ := run_exchange hr hp
  refine ⟨by rw [String.toList_ofList]; exact Json.not_isJson_brackets _, ?_⟩
  rintro ⟨_, he, _⟩
  rw [decode_eq_of_deepNesting hd] at ho
  cases he.symm.trans ho

end CatalogSearch.Http
