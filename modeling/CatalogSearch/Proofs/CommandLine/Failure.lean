import CatalogSearch.Proofs.CommandLine.Search
import CatalogSearch.Proofs.Console.Markup
import CatalogSearch.Proofs.Engine.Decoding

namespace CatalogSearch.CommandLine

open Session

section

variable [Console] [LawfulConsole]
  {e : Engine} {o : SearchOrder} {v : Invocation} {ms : Response.Members} {text : String}
  {partner : σ → Call → Except Error Value × σ} {s : σ}
  {world : τ → (n : Need) → Except Error n.Supply × τ} {w : τ}

-- The first fault of the request or of the reply decides the error of a search. All errors are reported as such,
-- unless a part of the reply is missing or of a wrong kind. The program ends with an exit code of its own if,
-- moreover, the console can show what it takes for markup: the address, the codes in titles, and the counts. Only
-- replies of whole characters are read here.
theorem reported_iff_no_misuse (hw : e.workers = .int n) (hs : o.options.selection = ∅)
    (hp : ∀ s body, (partner s (.select body)).1 = .ok (.object ms))
    (ht : Json.read text v.connection.nesting = .ok (.object ms))
    (hr : ∀ w r, (world w (.reply r)).1 = .ok (.body text)) :
    let found := ((e.query o.criteria o.options).run partner s).outcome
    let session := ((carryOut v e o).run world w).outcome
    let Fault := Engine.SearchFault e o.criteria o.options ms
    (∀ err, found = .error err ↔ Fault err) ∧
    ((∀ err, found = .error err → err.kind?.isSome) ↔ ∀ cause, ¬Fault (.misuse cause)) ∧
    ((∃ code ∈ exitCodes, session = .ok code) ↔
      v.Announced ∧ (∀ cause, ¬Fault (.misuse cause)) ∧ ∀ r, found = .ok r → r.Presentable) := by
  intro found session Fault
  have hf : ∀ err, found = .error err ↔ Fault err := fun err => Engine.query_eq_error_iff hw hs hp
  have hk : (∀ err, found = .error err → err.kind?.isSome) ↔ ∀ cause, ¬Fault (.misuse cause) := by
    constructor
    case mp  => exact fun h cause hc => nomatch h _ ((hf _).mpr hc)
    case mpr =>
      intro h err he
      rcases ((hf err).mp he).kind_or_misuse with hk | ⟨cause, rfl⟩
      case inl => exact hk
      case inr => exact absurd ((hf _).mp he) (h cause)
  -- The index behind the world is a partner that gives the same reply.
  have hi : ((e.query o.criteria o.options).run (index v.connection world) w).outcome = found :=
    (Engine.query_outcome_of_unselected hw hs (index_select ht hr)).trans
      (Engine.query_outcome_of_unselected hw hs hp).symm
  refine ⟨hf, hk, ?_⟩
  rw [← hk, ← hi]
  exact carryOut_ends_iff

end

theorem reported_if_down :
    let ms := [("error", Value.str "down")]
    let text := "\x7b\"error\": \"down\"\x7d"
    Json.read text = .ok (.object ms) ∧
      ∃ code ∈ exitCodes, ((carryOut quietly {} {}).run (served text) ()).outcome = .ok code := by
  intro ms text
  let partner (s : Unit) (_ : Call) : Except Error Value × Unit := (.ok (.object ms), s)
  have hp : ∀ s body, (partner s (.select body)).1 = .ok (.object ms) := fun _ _ => rfl
  have ht : Json.read text = .ok (.object ms) := by decide +kernel
  have hr : ∀ w r, (served text w (.reply r)).1 = .ok (.body text) := fun _ _ => rfl
  obtain ⟨hf, -, hs⟩ :=
    reported_iff_no_misuse (e := {}) (o := {}) (v := quietly) (s := ()) (w := ()) rfl rfl hp ht hr
  have hd := (hf (.engine (Json.text (.object ms)))).mpr <| .reply rfl <| .refused ⟨.str "down", rfl, nofun⟩
  refine ⟨ht, hs.mpr ⟨nofun, fun cause hc => ?_, fun r ho => ?_⟩⟩
  case refine_1 => cases hd.symm.trans ((hf _).mpr hc)
  case refine_2 => cases hd.symm.trans ho

theorem not_reported_without_hits :
    ¬∀ (e : Engine) (criteria : Value) (options : SearchOptions) (ms : Response.Members) (n : Int),
      e.workers = .int n → options.selection = ∅ → (∃ sent, Criteria.compile e.tuning criteria = .ok sent) →
        ∀ err, ((e.query criteria options).run (fun s _ => (.ok (.object ms), s)) ()).outcome = .error err →
          err.kind?.isSome := by
  intro h
  have hn := h {} .null {} [("hits", .null)] 1 rfl rfl ⟨.anything, rfl⟩ (.misuse .noSuchPart) rfl
  cases hn

end CatalogSearch.CommandLine
