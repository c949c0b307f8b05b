import CatalogSearch.Engine.Basic
import CatalogSearch.Proofs.Document
import CatalogSearch.Proofs.Engine.Dialogue

namespace CatalogSearch

namespace Response

def productOf (hit : Value) : Except Misuse String := do
  return (← (← hit.member "_source").member "product_id").text

def Lists (r : Response) (found : List Value) : Prop :=
  ∃ part, r.reply.member? "hits" = .ok (some part) ∧ part.member? "hits" = .ok (some (.list found))

theorem productIds_of_lists {r : Response} (h : r.Lists found) : r.productIds = found.mapM productOf := by
  obtain ⟨part, hp, hf⟩ := h
  have hr : r.hits = .ok part := by rw [hits, hp]; rfl
  rw [productIds, hr]
  change (part.member? "hits" >>= _) = _
  rw [hf]
  cases found <;> rfl

theorem productOf_of_source (hs : hit.member "_source" = .ok (.ofMap stored))
    (hp : stored.get? "product_id" = some v) : productOf hit = .ok v.text := by
  have hm : (Value.ofMap stored).member "product_id" = .ok v := by
    rw [Value.ofMap, Value.member, show stored.entries.lookup "product_id" = some v from hp]
    rfl
  rw [productOf, hs]
  change (Value.member "product_id" (.ofMap stored) >>= _) = _
  rw [hm]
  rfl

end Response

namespace Document

variable {d : Document} {stored : OrderedMap Value}

theorem get?_identity (d : Document) :
    d.identity.get? "id" = some (.str d.id) ∧
      d.identity.get? "product_id" = some (.str d.productId.text) := by
  simp [identity, OrderedMap.ofList]

def SentUnder (d : Document) (v : Value) (stored : OrderedMap Value) : Prop :=
  ∀ (σ : Type) (partner : σ → Call → Except Error Value × σ) (s : σ),
    ((Engine.addDocument d).run partner s).asked = [.update v (.ofMap stored)]

theorem sentUnder (h : d.body = .ok stored) (hi : stored.get? "id" = some v) : d.SentUnder v stored := by
  intro σ partner s
  have hl : (liftM d.body : Except Error (OrderedMap Value)) = .ok stored := by rw [h]; rfl
  rw [Engine.addDocument, hl]
  simp only [Engine.debug, Dialogue.run_bind, Dialogue.run_liftM, Dialogue.run_remark, Transcript.andThen,
    Dialogue.asked_discard, Dialogue.run_question, hi, Option.getD_some, List.nil_append]

-- A document is sent just once, under the identity that it holds, and a hit on it is taken for its product.
structure Identified (d : Document) (stored : OrderedMap Value) : Prop where
  sent    : d.SentUnder (.str d.id) stored
  id      : stored.get? "id" = some (.str d.id)
  product : stored.get? "product_id" = some (.str d.productId.text)
  found   : ∀ (r : Response) before hit after ids ids', r.Lists (before ++ hit :: after) →
    hit.member "_source" = .ok (.ofMap stored) →
    before.mapM Response.productOf = .ok ids → after.mapM Response.productOf = .ok ids' →
    r.productIds = .ok (ids ++ d.productId.text :: ids')

theorem identified_of_members (h : d.body = .ok stored) (hi : stored.get? "id" = some (.str d.id))
    (hp : stored.get? "product_id" = some (.str d.productId.text)) : Identified d stored where
  sent    := sentUnder h hi
  id      := hi
  product := hp
  found r before hit after ids ids' hl hs hb ha := by
    have hh : Response.productOf hit = .ok (Value.str d.productId.text).text :=
      Response.productOf_of_source hs hp
    rw [Outcome.mapM_eq_ok_iff] at hb ha
    rw [Response.productIds_of_lists hl, Outcome.mapM_eq_ok_iff]
    simp only [List.map_append, List.map_cons, hb, hh, ha, Value.text]

theorem exists_sentUnder (productId : Value) (context : Context) (fields : OrderedMap (List Value)) :
    let d := ofLists productId context fields
    ∃ stored, d.body = .ok stored ∧
      d.SentUnder ((given? context fields "id").getD (.str d.id)) stored ∧
      stored.get? "id" = some ((given? context fields "id").getD (.str d.id)) ∧
      stored.get? "product_id" =
        some ((given? context fields "product_id").getD (.str productId.text)) := by
  intro d
  obtain ⟨stored, hb, hg⟩ := exists_body_given productId context fields
  have hi : stored.get? "id" = some ((given? context fields "id").getD (.str d.id)) := by
    rw [hg, (get?_identity d).left]
    cases given? context fields "id" <;> rfl
  have hp : stored.get? "product_id" =
      some ((given? context fields "product_id").getD (.str productId.text)) := by
    rw [hg, (get?_identity d).right]
    cases given? context fields "product_id" <;> rfl
  exact ⟨stored, hb, sentUnder hb hi, hi, hp⟩

-- What a document is stored under is its product and context, unless it gives something else for one of
-- the two members that hold its identity. What it gives takes their place.
theorem identified_iff (productId : Value) (context : Context) (fields : OrderedMap (List Value)) :
    let d := ofLists productId context fields
    ∃ stored, d.body = .ok stored ∧
      d.SentUnder ((given? context fields "id").getD (.str d.id)) stored ∧
      (Identified d stored ↔ (∀ v ∈ given? context fields "id", v = .str d.id) ∧
        ∀ v ∈ given? context fields "product_id", v = .str productId.text) := by
  intro d
  obtain ⟨stored, hb, hs, hi, hp⟩ := exists_sentUnder productId context fields
  have hd (o : Option Value) (w : Value) : o.getD w = w ↔ ∀ v ∈ o, v = w := by
    cases o <;> simp
  refine ⟨stored, hb, hs, ?_⟩
  rw [← hd, ← hd]
  constructor
  case mp =>
    intro h
    exact ⟨Option.some.inj <| hi.symm.trans h.id, Option.some.inj <| hp.symm.trans h.product⟩
  case mpr =>
    rintro ⟨hid, hpd⟩
    exact identified_of_members hb (hid ▸ hi) (hpd ▸ hp)

theorem identified_german_variant :
    let fields : OrderedMap (List Value) :=
      ⟨[("locale", [.str "en_US"]), ("name", [.str "Boots"])], by decide⟩
    let d := ofLists (.str "sku-1") ⟨[("locale", .str "de_DE")], by decide⟩ fields
    d.id = "sku-1_locale:de_DE" ∧ ∃ stored, d.body = .ok stored ∧ Identified d stored := by
  intro fields d
  obtain ⟨stored, hb, _, hi⟩ :=
    identified_iff (.str "sku-1") ⟨[("locale", .str "de_DE")], by decide⟩ fields
  exact ⟨by decide, stored, hb, hi.mpr ⟨by rintro v ⟨⟩, by rintro v ⟨⟩⟩⟩

theorem not_identified_with_id_field :
    ¬∀ (productId : Value) (context : Context) (fields : OrderedMap (List Value)),
      ∃ stored, (ofLists productId context fields).body = .ok stored ∧
        Identified (ofLists productId context fields) stored := by
  intro h
  obtain ⟨stored, hb, hi⟩ :=
    h (.str "sku-1") ⟨[("locale", .str "de")], by decide⟩ ⟨[("id", [.str "x"])], by decide⟩
  cases hb
  exact absurd hi.id (by decide)

end Document
end CatalogSearch
