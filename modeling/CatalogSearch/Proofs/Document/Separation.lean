import CatalogSearch.Proofs.Document.Identity
import Mathlib.Data.List.Infix

namespace CatalogSearch

def Context.mark (code : String) : String :=
  "_" ++ code ++ ":"

namespace Document

def joined (text : String) : List (String × String) → String
  | []                    => text
  | (code, value) :: rest => text ++ Context.mark code ++ joined value rest

def Separates (mark text : String) : Prop :=
  ∀ before after, text ++ mark = before ++ mark ++ after → after = ""

-- Every value starts behind the first mark of its code, so that the parts can be read from the whole text.
def Legible (text : String) : List (String × String) → Prop
  | []                    => True
  | (code, value) :: rest => Separates (Context.mark code) text ∧ Legible value rest

variable {mark text text' rest rest' : String} {entries entries' : List (String × String)}

theorem joined_append (text value : String) (entries : List (String × String)) :
    joined (text ++ value) entries = text ++ joined value entries := by
  cases entries <;> simp [joined, String.append_assoc]

theorem Separates.eq_of_prefix (h : Separates mark text') (hp : text.toList <+: text'.toList)
    (he : text ++ mark ++ rest = text' ++ mark ++ rest') : text = text' := by
  obtain ⟨more, hm⟩ := hp
  obtain rfl : text' = text ++ String.ofList more := by
    rw [← String.toList_inj, String.toList_append, String.toList_ofList, hm]
  have he : mark.toList ++ rest.toList = more ++ mark.toList ++ rest'.toList := by
    simpa [String.append_assoc, ← String.toList_inj] using he
  -- The mark behind `text` also stands in front of what the longer text has more, and of its own mark.
  obtain ⟨after, ha⟩ : mark.toList <+: more ++ mark.toList :=
    List.prefix_of_prefix_length_le ⟨_, he⟩ ⟨_, rfl⟩ (by simp)
  have hz : String.ofList after = "" := by
    refine h text (String.ofList after) ?_
    simp [← String.toList_inj, ha]
  obtain rfl : after = [] := by simpa using hz
  obtain rfl : more = [] := by simpa using ha
  simp

theorem Separates.eq_and_eq (h : Separates mark text) (h' : Separates mark text')
    (he : text ++ mark ++ rest = text' ++ mark ++ rest') : text = text' ∧ rest = rest' := by
  have ht : text = text' := by
    have hl : text.toList ++ (mark.toList ++ rest.toList) =
        text'.toList ++ (mark.toList ++ rest'.toList) := by
      simpa [← String.toList_inj] using he
    rcases List.prefix_or_prefix_of_prefix ⟨_, hl⟩ ⟨_, rfl⟩ with hp | hp
    case inl => exact h'.eq_of_prefix hp he
    case inr => exact (h.eq_of_prefix hp he.symm).symm
  subst ht
  exact ⟨rfl, (String.append_right_inj _).mp he⟩

theorem eq_of_joined_eq (hc : entries.map Prod.fst = entries'.map Prod.fst) (h : Legible text entries)
    (h' : Legible text' entries') (he : joined text entries = joined text' entries') :
    text = text' ∧ entries = entries' := by
  induction entries generalizing text text' entries'
  case nil =>
    obtain rfl : entries' = [] := by simpa using hc.symm
    exact ⟨he, rfl⟩
  case cons entry entries hi =>
    obtain ⟨entry', entries', rfl, hk, ht⟩ := List.map_eq_cons_iff.mp hc.symm
    obtain ⟨code, value⟩ := entry
    obtain ⟨code', value'⟩ := entry'
    obtain rfl : code' = code := hk
    obtain ⟨rfl, hj⟩ := h.left.eq_and_eq h'.left he
    obtain ⟨rfl, rfl⟩ := hi ht.symm h.right h'.right hj
    exact ⟨rfl, rfl⟩

theorem exists_separates (mark text : String) :
    ∃ before after, text ++ mark = before ++ mark ++ after ∧ Separates mark before := by
  by_cases h : Separates mark text
  case pos => exact ⟨text, "", by simp, h⟩
  case neg =>
    simp only [Separates, not_forall] at h
    obtain ⟨between, rest, ht, hr⟩ := h
    have : between.length < text.length := by
      have hl := congrArg String.length ht
      have hr : 0 < rest.length := by
        rw [Nat.pos_iff_ne_zero]
        simpa using hr
      simp only [String.length_append] at hl
      omega
    obtain ⟨before, after, hb, hs⟩ := exists_separates mark between
    exact ⟨before, after ++ rest, by rw [ht, hb, String.append_assoc], hs⟩
termination_by text.length

-- Every text has legible parts, as what comes behind the first mark of a code may be taken for its value.
theorem exists_legible (text : String) (entries : List (String × String)) :
    ∃ text' entries', entries'.map Prod.fst = entries.map Prod.fst ∧
      joined text' entries' = joined text entries ∧ Legible text' entries' := by
  induction entries generalizing text
  case nil => exact ⟨text, [], rfl, rfl, trivial⟩
  case cons entry entries hi =>
    obtain ⟨code, value⟩ := entry
    obtain ⟨before, after, hb, hs⟩ := exists_separates (Context.mark code) text
    obtain ⟨value', entries', hc, hj, hl⟩ := hi (after ++ value)
    refine ⟨before, (code, value') :: entries', by simp [hc], ?_, hs, hl⟩
    rw [joined, joined, hj, hb, joined_append, ← String.append_assoc]

theorem separates_of_colonless (h : ':' ∉ text.toList) : Separates (Context.mark code) text := by
  intro before after he
  have hl : text.toList ++ (Context.mark code).toList =
      before.toList ++ (Context.mark code).toList ++ after.toList := by
    simpa [← String.toList_inj] using he
  have hc : ':' ∉ after.toList := by
    have hc := congrArg (List.count ':') hl
    simp only [List.count_append, List.count_eq_zero.mpr h] at hc
    exact List.count_eq_zero.mp (by omega)
  rcases List.eq_nil_or_concat after.toList with hn | ⟨init, last, hn⟩
  case inl => exact String.toList_eq_nil_iff.mp hn
  case inr =>
    have hg : (text.toList ++ ("_" ++ code).toList) ++ [':'] =
        (before.toList ++ (Context.mark code).toList ++ init) ++ [last] := by
      simpa [hn, Context.mark] using hl
    obtain rfl : ':' = last := List.singleton_inj.mp <| List.append_inj_right' hg rfl
    simp [hn] at hc

theorem legible_of_colonless (h : ':' ∉ text.toList) (he : ∀ entry ∈ entries, ':' ∉ entry.2.toList) :
    Legible text entries := by
  induction entries generalizing text
  case nil              => trivial
  case cons entry _ hi =>
    exact ⟨separates_of_colonless h, hi (he _ (.head _)) fun e hm => he e (.tail _ hm)⟩

theorem joined_cons (text : String) (entry : String × String) (entries : List (String × String)) :
    joined text (entry :: entries) =
      text ++ "_" ++ "_".intercalate ((entry :: entries).map fun e => e.1 ++ ":" ++ e.2) := by
  induction entries generalizing text entry
  case nil          => simp [joined, Context.mark, String.append_assoc]
  case cons _ _ hi => rw [joined, hi]; simp [Context.mark, String.append_assoc]

variable {productId productId' : String} {own own' : OrderedMap String}
  {fields fields' : OrderedMap (List Value)}

def ofTexts (productId : String) (own : OrderedMap String) (fields : OrderedMap (List Value)) : Document :=
  ofLists (.str productId) (.ofTexts own) fields

theorem id_ofTexts :
    (ofTexts productId own fields).id =
      if own.entries = [] then productId ++ "_" else joined productId own.entries := by
  have hi : (ofTexts productId own fields).id =
      productId ++ "_" ++ "_".intercalate (own.entries.map fun e => e.1 ++ ":" ++ e.2) := by
    simp [id, ofTexts, ofLists, Context.text, Context.ofTexts, OrderedMap.mapValues, Value.text,
      Function.comp_def]
  rw [hi]
  cases own.entries
  case nil  => simp
  case cons => rw [← joined_cons, if_neg (List.cons_ne_nil _ _)]

theorem id_eq_iff (hk : own.keys = own'.keys) :
    (ofTexts productId own fields).id = (ofTexts productId' own' fields').id ↔
      joined productId own.entries = joined productId' own'.entries := by
  have hn : own.entries = [] ↔ own'.entries = [] := by
    have hl : own.entries.length = own'.entries.length := by
      simpa [OrderedMap.keys] using congrArg List.length hk
    rw [← List.length_eq_zero_iff, hl, List.length_eq_zero_iff]
  rw [id_ofTexts, id_ofTexts]
  by_cases h : own.entries = []
  case pos => simp [h, hn.mp h, joined]
  case neg => simp [h, hn.not.mp h]

def StoredUnder (d : Document) (v : Value) : Prop :=
  ∃ stored, d.body = .ok stored ∧ d.SentUnder v stored

theorem StoredUnder.unique {d : Document} (h : StoredUnder d v) (h' : StoredUnder d w) : v = w := by
  obtain ⟨stored, _, hs⟩ := h
  obtain ⟨stored', _, hs'⟩ := h'
  let partner (s : Unit) (_ : Call) : Except Error Value × Unit := (.ok .null, s)
  have he := (hs Unit partner ()).symm.trans (hs' Unit partner ())
  injection he with he
  injection he

theorem storedUnder_id (ho : "id" ∉ own.keys) (hf : "id" ∉ fields.keys) :
    StoredUnder (ofTexts productId own fields) (.str (ofTexts productId own fields).id) := by
  have hn : given? (.ofTexts own) fields "id" = none := by
    simp [given?, Context.ofTexts, own.get?_eq_none_iff.mpr ho, fields.get?_eq_none_iff.mpr hf]
  obtain ⟨stored, hb, hs, _⟩ := exists_sentUnder (.str productId) (.ofTexts own) fields
  rw [hn] at hs
  exact ⟨stored, hb, hs⟩

-- A legible document is stored apart from all other legible ones with its codes, while an illegible one is
-- stored in the place of one of them.
theorem stored_apart_iff (productId : String) (own : OrderedMap String) (fields : OrderedMap (List Value))
    (ho : "id" ∉ own.keys) (hf : "id" ∉ fields.keys) :
    ∃ v, StoredUnder (ofTexts productId own fields) v ∧
      (Legible productId own.entries ↔ ∀ productId' own' fields',
        own'.keys = own.keys → "id" ∉ fields'.keys → Legible productId' own'.entries →
        (productId' ≠ productId ∨ own' ≠ own) →
        ∃ v', StoredUnder (ofTexts productId' own' fields') v' ∧ v' ≠ v) := by
  refine ⟨_, storedUnder_id ho hf, ?_⟩
  constructor
  case mp =>
    intro hl productId' own' fields' hk hf' hl' hne
    refine ⟨_, storedUnder_id (hk ▸ ho) hf', fun he => ?_⟩
    have hj := (id_eq_iff hk).mp (Value.str.inj he)
    obtain ⟨hp, hc⟩ := eq_of_joined_eq hk hl' hl hj
    exact hne.elim (absurd hp) (absurd <| OrderedMap.ext hc)
  case mpr =>
    intro h
    -- The legible parts of the same text are those of another document, unless they are its own ones.
    obtain ⟨productId', entries, hk, hj, hl⟩ := exists_legible productId own.entries
    let own' : OrderedMap String := ⟨entries, hk ▸ own.nodup⟩
    have hk : own'.keys = own.keys := hk
    by_cases he : productId' = productId ∧ own' = own
    case pos =>
      obtain ⟨rfl, ho'⟩ := he
      rwa [← ho']
    case neg =>
      obtain ⟨v, hs, hv⟩ := h productId' own' ∅ hk nofun hl (not_and_or.mp he)
      have hs' : StoredUnder (ofTexts productId' own' ∅) (.str (ofTexts productId' own' ∅).id) :=
        storedUnder_id (hk ▸ ho) nofun
      exact absurd (hs.unique hs' |>.trans <| congrArg Value.str <| (id_eq_iff hk).mpr hj) hv

theorem locales_stored_apart :
    let german : OrderedMap String := ⟨[("website", "de"), ("locale", "de_DE")], by decide⟩
    let english : OrderedMap String := ⟨[("website", "de"), ("locale", "en_US")], by decide⟩
    ∃ v v', StoredUnder (ofTexts "sku-1" german ∅) v ∧ StoredUnder (ofTexts "sku-1" english ∅) v' ∧
      v' ≠ v := by
  intro german english
  obtain ⟨v, hs, hi⟩ := stored_apart_iff "sku-1" german ∅ (by decide) nofun
  have hl : Legible "sku-1" german.entries := legible_of_colonless (by decide) (by decide)
  have hl' : Legible "sku-1" english.entries := legible_of_colonless (by decide) (by decide)
  have hne : english ≠ german := fun he => absurd (congrArg OrderedMap.entries he) (by decide)
  obtain ⟨v', hs', hv⟩ := hi.mp hl "sku-1" english ∅ rfl nofun hl' (.inr hne)
  exact ⟨v, v', hs, hs', hv⟩

theorem not_stored_apart_with_mark_in_value :
    ¬∀ productId productId' (own own' : OrderedMap String) fields fields',
      own'.keys = own.keys → "id" ∉ own.keys → "id" ∉ fields.keys → "id" ∉ fields'.keys →
      (productId' ≠ productId ∨ own' ≠ own) →
      ∃ v v', StoredUnder (ofTexts productId own fields) v ∧
        StoredUnder (ofTexts productId' own' fields') v' ∧ v' ≠ v := by
  intro h
  let own : OrderedMap String := ⟨[("locale", "at")], by decide⟩
  let own' : OrderedMap String := ⟨[("locale", "de_locale:at")], by decide⟩
  let v : Value := .str "sku-1_locale:de_locale:at"
  have hne : own' ≠ own := fun he => absurd (congrArg OrderedMap.entries he) (by decide)
  obtain ⟨_, _, hs, hs', hv⟩ := h "sku-1_locale:de" "sku-1" own own' ∅ ∅ rfl (by decide) nofun nofun (.inr hne)
  have hd : StoredUnder (ofTexts "sku-1_locale:de" own ∅) v := storedUnder_id (by decide) nofun
  have hd' : StoredUnder (ofTexts "sku-1" own' ∅) v := storedUnder_id (by decide) nofun
  exact hv (hs'.unique hd' |>.trans (hs.unique hd).symm)

end Document
end CatalogSearch
