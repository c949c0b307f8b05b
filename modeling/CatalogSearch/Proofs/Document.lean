import CatalogSearch.Document
import CatalogSearch.Proofs.Query.Meaning

namespace CatalogSearch

-- An index that judges documents by their members as they are sent: a term by the very text that is
-- stored, and a field as present by any value but `null`.
structure Evaluation.Literal (e : Evaluation (OrderedMap Value)) : Prop where
  term    : ∀ body field stored text, body.get? field = some (.str stored) →
    (e.holds (Atom.term field (.str text)).toValue body ↔ stored = text)
  present : ∀ body field, e.holds (Atom.present field).toValue body ↔
    ∃ v, body.get? field = some v ∧ v ≠ .null

namespace Document

variable {e : Evaluation (OrderedMap Value)} {body : OrderedMap Value}

def collapsed : List Value → Value
  | []  => .str ""
  | [v] =>
    match v with
    | .null | .list _ | .object _ => .list [v]
    | v                           => .str v.text
  | vs  => .list vs

theorem collapse_list (values : List Value) : collapse (.list values) = .ok (collapsed values) := by
  match values with
  | []           => rfl
  | [v]          => cases v <;> rfl
  | v :: w :: vs => rfl

def ofLists (productId : Value) (context : Context) (fields : OrderedMap (List Value)) : Document where
  productId
  context
  fields := fields.mapValues .list

def given? (context : Context) (fields : OrderedMap (List Value)) (name : String) : Option Value :=
  (context.get? name).or ((fields.get? name).map collapsed)

def identity (d : Document) : OrderedMap Value :=
  .ofList [("id", .str d.id), ("product_id", .str d.productId.text)]

theorem exists_body_given (productId : Value) (context : Context) (fields : OrderedMap (List Value)) :
    ∃ body, (ofLists productId context fields).body = .ok body ∧ ∀ name, body.get? name =
      (given? context fields name).or ((ofLists productId context fields).identity.get? name) := by
  have hc : (fields.mapValues Value.list).entries.mapM
      (fun entry => do return (entry.1, ← collapse entry.2)) =
        Except.ok (fields.mapValues collapsed).entries := by
    rw [Outcome.mapM_eq_ok_iff]
    simp [OrderedMap.mapValues, collapse_list]
  refine ⟨_, by rw [Document.body, ofLists, hc]; rfl, fun name => ?_⟩
  rw [OrderedMap.get?_foldl_insert, OrderedMap.get?_foldl_insert, OrderedMap.get?_mapValues,
    ← Option.or_assoc]
  rfl

theorem exists_body (productId : Value) (context : Context) (fields : OrderedMap (List Value)) :
    ∃ body, Document.body { productId, context, fields := fields.mapValues .list } = .ok body ∧
      ∀ code v, context.get? code = some v → body.get? code = some v := by
  obtain ⟨body, hb, hg⟩ := exists_body_given productId context fields
  exact ⟨body, hb, fun code v hv => by rw [hg, given?, hv]; rfl⟩

theorem present_of_text (he : e.Literal) (h : body.get? field = some (.str stored)) :
    e.holds (Atom.present field).toValue body :=
  (he.present body field).mpr ⟨_, h, nofun⟩

theorem not_present_of_absent (he : e.Literal) (h : field ∉ body.keys) :
    ¬e.holds (Atom.present field).toValue body := by
  intro hp
  obtain ⟨v, hv, _⟩ := (he.present body field).mp hp
  rw [(body.get?_eq_none_iff).mpr h] at hv
  cases hv

-- A body that holds all codes of one context matches the clause of another one if the two agree on the
-- codes that they share.
theorem matches_context_iff (he : e.Literal) {own asked : OrderedMap String}
    (hb : ∀ code text, own.get? code = some text → body.get? code = some (.str text))
    (ha : ∀ code ∈ asked.keys, code ∈ body.keys → code ∈ own.keys) :
    (Context.ofTexts asked).clause.Matches e body ↔
      ∀ code stored text, own.get? code = some stored → asked.get? code = some text → stored = text := by
  rw [Context.matches_clause_iff]
  constructor
  case mp =>
    intro h code stored text ho hq
    rcases h (code, text) (asked.mem_entries_iff.mpr hq) with h | h
    case inl => exact (he.term body code stored text (hb code stored ho)).mp h
    case inr => exact absurd (present_of_text he (hb code stored ho)) h
  case mpr =>
    intro h entry hm
    have hq := asked.mem_entries_iff.mp hm
    cases ho : own.get? entry.1
    case some stored =>
      exact .inl <| (he.term body _ stored _ (hb _ stored ho)).mpr (h _ stored _ ho hq)
    case none =>
      right
      refine not_present_of_absent he fun hk => ?_
      exact own.get?_eq_none_iff.mp ho (ha _ (List.mem_map_of_mem hm) hk)

-- A document can be sent, and is found from every context that asks for no other of its members and agrees
-- with its own one on the codes that they share. In particular it is found from its own one.
theorem found_from_agreeing_contexts (he : e.Literal) (productId : Value) (own : OrderedMap String)
    (fields : OrderedMap (List Value)) :
    ∃ body,
      Document.body { productId, context := .ofTexts own, fields := fields.mapValues .list } = .ok body ∧
      (∀ asked : OrderedMap String, (∀ code ∈ asked.keys, code ∉ own.keys → code ∉ body.keys) →
        ((Context.ofTexts asked).clause.Matches e body ↔ ∀ code stored text,
          own.get? code = some stored → asked.get? code = some text → stored = text)) ∧
      (Context.ofTexts own).clause.Matches e body := by
  obtain ⟨body, hb, hc⟩ := exists_body productId (.ofTexts own) fields
  have hc : ∀ code text, own.get? code = some text → body.get? code = some (.str text) :=
    fun code text ho => hc code _ (by simp [Context.ofTexts, ho])
  refine ⟨body, hb, fun asked ha => matches_context_iff he hc ?asked,
    (matches_context_iff he hc ?own).mpr ?agree⟩
  case asked => exact fun code hq => not_imp_not.mp (ha code hq)
  case own   => exact fun code ho _ => ho
  case agree => exact fun code stored text ho hq => Option.some.inj (ho.symm.trans hq)

theorem found_from_any_currency :
    let e : Evaluation (OrderedMap Value) := {
      holds v body := v = Atom.matchAll.toValue ∨
        (∃ field text, v = (Atom.term field (.str text)).toValue ∧ body.get? field = some (.str text)) ∨
        ∃ field w, v = (Atom.present field).toValue ∧ body.get? field = some w ∧ w ≠ .null
      matchAll _ := .inl rfl }
    let own : OrderedMap String := ⟨[("website", "de"), ("locale", "de_DE")], by decide⟩
    let fields : OrderedMap (List Value) :=
      ⟨[("locale", [.str "en_US"]), ("name", [.str "Boots"])], by decide⟩
    let inEuros : OrderedMap String := ⟨[("locale", "de_DE"), ("currency", "EUR")], by decide⟩
    let inEnglish : OrderedMap String := ⟨[("locale", "en_US")], by decide⟩
    e.Literal ∧ ∃ body,
      Document.body {
        productId := .str "1", context := .ofTexts own, fields := fields.mapValues .list } = .ok body ∧
      (Context.ofTexts inEuros).clause.Matches e body ∧
      ¬(Context.ofTexts inEnglish).clause.Matches e body := by
  intro e own fields inEuros inEnglish
  have he : e.Literal := {
    term    := by
      intro body field stored text h
      simp [e, Atom.toValue, objectOf, h]
    present := by simp [e, Atom.toValue, objectOf] }
  obtain ⟨body, hb, h, _⟩ := found_from_agreeing_contexts he (.str "1") own fields
  have hk : body.keys = ["id", "product_id", "locale", "name", "website"] := by
    rw [← Except.ok.inj hb]
    rfl
  have euros : ∀ code ∈ inEuros.keys, code ∉ own.keys → code ∉ body.keys := by
    rw [hk]
    decide
  have english : ∀ code ∈ inEnglish.keys, code ∉ own.keys → code ∉ body.keys := by
    rw [hk]
    decide
  refine ⟨he, body, hb, (h inEuros euros).mpr ?found, fun hm => ?missed⟩
  case found =>
    intro code stored text ho hq
    simp only [own, inEuros, OrderedMap.get?, lookup_entries_cons, List.lookup_nil] at ho hq
    grind
  case missed => exact absurd ((h inEnglish english).mp hm "locale" "de_DE" "en_US" rfl rfl) (by decide)

end Document
end CatalogSearch
