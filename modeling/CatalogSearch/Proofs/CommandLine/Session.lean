import CatalogSearch.CommandLine.Session
import CatalogSearch.Proofs.Engine.Dialogue
import CatalogSearch.Proofs.Reply

namespace CatalogSearch

namespace Dialogue

variable {N N' Q Q' α σ : Type} {A : Q → Type} {A' : Q' → Type}
  {partner : σ → (q : Q') → Except Error (A' q) × σ} {s : σ}

theorem run_noteAll (ns : List N') (d : Dialogue N' Q' A' α) :
    (noteAll ns d).run partner s = { d.run partner s with notes := ns ++ (d.run partner s).notes } := by
  induction ns
  case nil          => rfl
  case cons n ns hi => simp [noteAll, run, hi]

-- A partner that is asked in other words. What has no other words is not asked.
def understood (words : (q : Q) → Except Error (Wording N' Q' A' (A q)))
    (partner : σ → (q : Q') → Except Error (A' q) × σ) (s : σ) (q : Q) : Except Error (A q) × σ :=
  match words q with
  | .error e => (.error e, s)
  | .ok r    => ((partner s r.question).1 >>= r.understand, (partner s r.question).2)

variable {words : (q : Q) → Except Error (Wording N' Q' A' (A q))} {notes : N → List N'}

-- Other words come to the same as a partner that is asked in other words.
theorem reword_amountsTo (d : Dialogue N Q A α) :
    let t := d.run (understood words partner) s
    ((d.reword notes words).run partner s).AmountsTo
      (t.asked.filterMap fun q => (words q).toOption.map (·.question)) t.state t.outcome := by
  induction d generalizing s
  case done outcome => exact ⟨rfl, rfl, rfl⟩
  case note n rest hi =>
    rw [reword, run_noteAll]
    exact ⟨hi.asked, hi.state, hi.outcome⟩
  case ask q next hi =>
    simp only [reword, run, understood]
    cases hw : words q
    case error e =>
      obtain ⟨ha, hs, ho⟩ := hi (.error e) (s := s)
      exact ⟨by simpa [hw, Except.toOption] using ha, hs, ho⟩
    case ok r =>
      rw [run_noteAll]
      obtain ⟨ha, hs, ho⟩ := hi ((partner s r.question).1 >>= r.understand) (s := (partner s r.question).2)
      exact ⟨by simpa [hw, Except.toOption, run] using ha, hs, ho⟩

end Dialogue

theorem Http.decode_fromIndex {r : HttpRequest} (h : decode nesting r reply = .error err) : err.FromIndex := by
  cases reply
  case failure => cases h; exact .connection
  case body text =>
    simp only [decode] at h
    split at h
    case h_1 => cases h
    case h_2 => cases h; exact .misuse
    case h_3 => cases h; exact .misuse
    case h_4 => cases h; exact .connection

namespace CommandLine.Session

variable {world : σ → (n : Need) → Except Error n.Supply × σ} {s : σ} {c : Http.Connection}

theorem run_say [Console] (h : Console.read markup = .ok text) (channel : Channel) :
    (say channel markup).run world s =
      { outcome := .ok (), asked := [], notes := [.line channel text], state := s } := by
  simp only [say, h]
  rfl

theorem run_say_of_error [Console] (h : Console.read markup = .error cause) (channel : Channel) :
    (say channel markup).run world s =
      { outcome := .error (.misuse cause), asked := [], notes := [], state := s } := by
  simp only [say, h]
  rfl

def index (c : Http.Connection) (world : σ → (n : Need) → Except Error n.Supply × σ) :
    σ → Call → Except Error Value × σ :=
  Dialogue.understood (Http.wording c) (Dialogue.understood replyWording world)

def needOf? (c : Http.Connection) (call : Call) : Option Need :=
  (Http.request c call).toOption.map .reply

theorem converse_amountsTo (debug : Bool) (d : Engine.Conversation α) :
    let t := d.run (index c world) s
    ((converse c debug d).run world s).AmountsTo (t.asked.filterMap (needOf? c)) t.state t.outcome := by
  have ⟨ha, hs, ho⟩ : ((converse c debug d).run world s).AmountsTo _ _ _ :=
    Dialogue.reword_amountsTo (Http.exchange c d)
  have ⟨ha', hs', ho'⟩ : ((Http.exchange c d).run (Dialogue.understood replyWording world) s).AmountsTo _ _ _ :=
    Dialogue.reword_amountsTo d
  refine ⟨ha.trans ?_, hs.trans hs', ho.trans ho'⟩
  rw [Http.exchange, ha', List.filterMap_filterMap]
  refine List.filterMap_congr fun call _ => ?_
  rw [needOf?, Http.wording]
  cases Http.request c call <;> rfl

def Replies (world : σ → (n : Need) → Except Error n.Supply × σ) : Prop :=
  ∀ s r, ∃ reply, (world s (.reply r)).1 = .ok reply

theorem index_fromIndex (hw : Replies world) (h : (index c world s call).1 = .error err) : err.FromIndex := by
  rw [index, Dialogue.understood, Http.wording] at h
  cases hr : Http.request c call
  case error =>
    rw [hr] at h
    cases call
    case update id body =>
      simp only [Http.request] at hr
      split at hr
      case h_1 => cases hr
      case h_2 => cases hr; cases h; exact .misuse
    all_goals cases hr
  case ok r =>
    rw [hr] at h
    obtain ⟨reply, hg⟩ := hw s r
    change ((world s (.reply r)).1 >>= _) >>= _ = _ at h
    rw [hg] at h
    exact Http.decode_fromIndex h

theorem index_select (ht : Json.read text c.nesting = .ok v) (hw : ∀ s r, (world s (.reply r)).1 = .ok (.body text))
    (s : σ) (body : Value) : (index c world s (.select body)).1 = .ok v := by
  change ((world s (.reply _)).1 >>= Except.ok) >>= Http.decode _ _ = _
  rw [hw]
  change Http.decode _ _ (.body text) = _
  rw [Http.decode, ht]

end CommandLine.Session
end CatalogSearch
