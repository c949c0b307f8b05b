import CatalogSearch.Proofs.Toml
import CatalogSearch.Settings.Store

namespace CatalogSearch.Settings

inductive Tier : Value → Prop
  | whole      : Tier (.list [.int boost, .int months])
  | fractional : boost ≠ .nan → Tier (.list [.double boost, .int months])

structure WellTyped (s : Settings) : Prop where
  url              : ∃ text, s.url = .str text
  timeout          : ∃ seconds, s.timeout = .double seconds
  fullTextFields   : ∃ fields : List String, s.fullTextFields = .list (fields.map .str)
  phraseField      : ∃ field, s.phraseField = .str field
  sortByScoreFirst : ∃ first, s.sortByScoreFirst = .bool first
  siblingWorkers   : ∃ workers, s.siblingWorkers = .int workers
  recencyEnabled   : ∃ enabled, s.recencyEnabled = .bool enabled
  recencyField     : ∃ field, s.recencyField = .str field
  recencyTiers     : ∃ tiers, s.recencyTiers = .list tiers ∧ ∀ tier ∈ tiers, Tier tier
  coloredOutput    : ∃ colored, s.coloredOutput = .bool colored

theorem Tier.same_self (h : Tier v) : v.same v := by
  cases h
  case whole         => simp [Value.same, Value.sameItems]
  case fractional hb => simp [Value.same, Value.sameItems, Double.compare?_self hb]

theorem Tier.isTier (h : Tier v) : isTier v := by
  cases h <;> rfl

theorem textOf_eq_ok (h : ∃ s, v = .str s) : textOf key v = .ok v := by
  obtain ⟨_, rfl⟩ := h; rfl

theorem flagOf_eq_ok (h : ∃ b, v = .bool b) : flagOf key v = .ok v := by
  obtain ⟨_, rfl⟩ := h; rfl

theorem wholeOf_eq_ok (h : ∃ n, v = .int n) : wholeOf key v = .ok v := by
  obtain ⟨_, rfl⟩ := h; rfl

theorem timeOf_eq_ok (h : ∃ x, v = .double x) : timeOf key v = .ok v := by
  obtain ⟨_, rfl⟩ := h; rfl

theorem textsOf_eq_ok (h : ∃ ss : List String, v = .list (ss.map .str)) : textsOf key v = .ok v := by
  obtain ⟨ss, rfl⟩ := h
  exact if_pos <| by simp [isText]

theorem tiersOf_eq_ok (h : ∃ tiers, v = .list tiers ∧ ∀ tier ∈ tiers, Tier tier) :
    tiersOf key v = .ok v := by
  obtain ⟨tiers, rfl, ht⟩ := h
  exact if_pos <| List.all_eq_true.mpr fun tier hm => (ht tier hm).isTier

theorem Tier.items (h : Tier v) : (do return .list (← v.items) : Except Misuse Value) = .ok v := by
  cases h <;> rfl

theorem Tier.expressible (h : Tier v) : Toml.Expressible v := by
  cases h <;> simp

def differing (entries : List (String × Value × Value)) : List (String × Value) :=
  entries.flatMap fun (key, value, default) => if value.same default then [] else [(key, value)]

-- What is read then, as a key that is absent leaves its default.
def settled (value default : Value) : Value :=
  if value.same default then default else value

theorem settled_str : settled (.str s) (.str t) = .str s := by
  by_cases hs : s = t <;> simp [settled, Value.same, hs]

theorem settled_bool : settled (.bool b) (.bool c) = .bool b := by
  by_cases hs : b = c <;> simp [settled, Value.same, hs]

section

variable {v d : Value} {entries : List (String × Value × Value)}

theorem same_settled (h : v.same v) : v.same (settled v d) := by
  by_cases hs : v.same d <;> simp [settled, hs, h]

theorem exists_of_mem_differing (h : m ∈ differing entries) : ∃ d, (m.1, m.2, d) ∈ entries := by
  obtain ⟨⟨key, v, d⟩, he, hm⟩ := List.mem_flatMap.mp h
  by_cases hs : v.same d
  case pos => simp [hs] at hm
  case neg =>
    obtain rfl : m = (key, v) := by simpa [hs] using hm
    exact ⟨d, he⟩

theorem lookup_differing (hn : (entries.map (·.1)).Nodup) (hm : (key, v, d) ∈ entries) :
    (differing entries).lookup key = if v.same d then none else some v := by
  induction entries
  case nil => contradiction
  case cons hd tl hi =>
    have ⟨hk, hn⟩ := List.nodup_cons.mp hn
    have hc : differing (hd :: tl) = (if hd.2.1.same hd.2.2 then [] else [(hd.1, hd.2.1)]) ++ differing tl :=
      List.flatMap_cons
    rw [hc, List.lookup_append]
    rcases List.mem_cons.mp hm with rfl | hm
    case inl =>
      have hl : (differing tl).lookup key = none := by
        rw [lookup_entries_eq_none_iff, List.mem_map]
        rintro ⟨m, hd, rfl⟩
        have ⟨_, he⟩ := exists_of_mem_differing hd
        exact hk (List.mem_map_of_mem (f := (·.1)) he)
      by_cases hs : v.same d <;> simp [hs, hl]
    case inr =>
      have hne : key ≠ hd.1 := fun he => hk <| List.mem_map.mpr ⟨_, hm, he⟩
      rw [hi hn hm]
      by_cases hs : hd.2.1.same hd.2.2 <;> simp [hs, lookup_entries_cons, hne]

end

section

variable {members : List (String × Value)} {check : Value → Except Error Value} {v d : Value}

theorem readKey_of_lookup (h : members.lookup key = some v) (hc : check v = .ok v) :
    readKey (.object members) key d check = .ok v := by
  simp only [readKey, entry?, h]
  exact hc

theorem readKey_of_absent (h : members.lookup key = none) :
    readKey (.object members) key d check = .ok d := by
  simp only [readKey, entry?, h]
  rfl

theorem readKey_differing (hn : (entries.map (·.1)).Nodup) (hm : (key, v, d) ∈ entries)
    (hc : check v = .ok v) :
    readKey (.object (differing entries)) key d check = .ok (settled v d) := by
  have hl := lookup_differing hn hm
  by_cases hs : v.same d
  case pos => rw [settled, if_pos hs, readKey_of_absent (by rw [hl, if_pos hs])]
  case neg => rw [settled, if_neg hs, readKey_of_lookup (by rw [hl, if_neg hs]) hc]

end

variable {s : Settings}

def recencyEntries (s : Settings) : List (String × Value × Value) :=
  let d : Settings := {}
  [("enabled", s.recencyEnabled, d.recencyEnabled),
   ("field", s.recencyField, d.recencyField),
   ("tiers", s.recencyTiers, d.recencyTiers)]

def recencyPart (s : Settings) : List (String × Value) :=
  differing s.recencyEntries

def parts (s : Settings) : List (String × Value) :=
  [("elasticsearch", .object [("url", s.url), ("timeout", s.timeout)]),
   ("search", .object [
     ("full_text_fields", s.fullTextFields),
     ("phrase_field", s.phraseField),
     ("sort_by_score_first", s.sortByScoreFirst),
     ("sibling_workers", s.siblingWorkers)]),
   ("display", .object [("colored_output", s.coloredOutput)])] ++
  if s.recencyPart.isEmpty then [] else [("recency_boost", .object s.recencyPart)]

theorem WellTyped.document_eq (h : s.WellTyped) : s.document = .ok (.object s.parts) := by
  obtain ⟨fields, hf⟩ := h.fullTextFields
  obtain ⟨enabled, he⟩ := h.recencyEnabled
  obtain ⟨tiers, ht, hr⟩ := h.recencyTiers
  have hfi : s.fullTextFields.items = .ok (fields.map .str) := by rw [hf]; rfl
  have hti : s.recencyTiers.items = .ok tiers := by rw [ht]; rfl
  have hm : tiers.mapM (fun tier => do return .list (← tier.items) : Value → Except Misuse Value) =
      .ok tiers := by
    rw [Outcome.mapM_eq_ok_iff]
    exact List.map_congr_left fun tier hm => (hr tier hm).items
  have he : (if s.recencyEnabled.same (.bool false) then [] else [("enabled", s.recencyEnabled)]) =
      if s.recencyEnabled.holds then [("enabled", .bool true)] else [] := by
    rw [he]; cases enabled <;> rfl
  have hp : s.recencyPart = (if s.recencyEnabled.holds then [("enabled", .bool true)] else []) ++
      (if s.recencyField.same ({} : Settings).recencyField then [] else [("field", s.recencyField)]) ++
      if s.recencyTiers.same ({} : Settings).recencyTiers then [] else [("tiers", s.recencyTiers)] := by
    rw [← he, List.append_assoc, ← List.append_nil (if s.recencyTiers.same _ then _ else _)]
    rfl
  rw [parts, hp, document, hfi, hf]
  by_cases hs : s.recencyTiers.same ({} : Settings).recencyTiers
  case pos =>
    simp only [bind, Except.bind, if_pos hs]
    rfl
  case neg =>
    rw [hti]
    simp only [bind, Except.bind, if_neg hs] at hm ⊢
    rw [hm, ht]
    rfl

theorem lookup_recency : (s.parts.lookup "recency_boost").getD (.object []) = .object s.recencyPart := by
  cases he : s.recencyPart
  case nil  => simp [parts, he, lookup_entries_cons]
  case cons => simp [parts, he, lookup_entries_cons]

theorem readKey_recency (hm : (key, v, d) ∈ s.recencyEntries) (hc : check v = .ok v) :
    readKey (.object s.recencyPart) key d check = .ok (settled v d) :=
  readKey_differing (by simp [recencyEntries]) hm hc

open Outcome in
theorem WellTyped.parse_document (h : s.WellTyped) :
    parse (.object s.parts) origin =
      .ok { s with recencyTiers := settled s.recencyTiers Recency.defaultTiers, path := origin } := by
  have he : settled s.recencyEnabled (.bool false) = s.recencyEnabled :=
    have ⟨_, he⟩ := h.recencyEnabled
    he ▸ settled_bool
  have hf : settled s.recencyField (.str "created_at") = s.recencyField :=
    have ⟨_, hf⟩ := h.recencyField
    hf ▸ settled_str
  -- Each part and then its keys, in the order in which they are read.
  refine bind_eq_ok_iff.mpr ⟨_, rfl, ?_⟩
  refine bind_eq_ok_iff.mpr ⟨s.url, readKey_of_lookup rfl (textOf_eq_ok h.url), ?_⟩
  refine bind_eq_ok_iff.mpr ⟨s.timeout, readKey_of_lookup rfl (timeOf_eq_ok h.timeout), ?_⟩
  refine bind_eq_ok_iff.mpr ⟨_, rfl, ?_⟩
  refine bind_eq_ok_iff.mpr ⟨s.fullTextFields, readKey_of_lookup rfl (textsOf_eq_ok h.fullTextFields), ?_⟩
  refine bind_eq_ok_iff.mpr ⟨s.phraseField, readKey_of_lookup rfl (textOf_eq_ok h.phraseField), ?_⟩
  refine bind_eq_ok_iff.mpr ⟨s.sortByScoreFirst, readKey_of_lookup rfl (flagOf_eq_ok h.sortByScoreFirst), ?_⟩
  refine bind_eq_ok_iff.mpr ⟨s.siblingWorkers, readKey_of_lookup rfl (wholeOf_eq_ok h.siblingWorkers), ?_⟩
  refine bind_eq_ok_iff.mpr ⟨_, congrArg Except.ok lookup_recency, ?_⟩
  refine bind_eq_ok_iff.mpr ⟨_, readKey_recency (.head _) (flagOf_eq_ok h.recencyEnabled), ?_⟩
  refine bind_eq_ok_iff.mpr ⟨_, readKey_recency (.tail _ (.head _)) (textOf_eq_ok h.recencyField), ?_⟩
  refine bind_eq_ok_iff.mpr
    ⟨_, readKey_recency (.tail _ (.tail _ (.head _))) (tiersOf_eq_ok h.recencyTiers), ?_⟩
  rw [he, hf]
  refine bind_eq_ok_iff.mpr ⟨_, rfl, ?_⟩
  exact bind_eq_ok_iff.mpr ⟨s.coloredOutput, readKey_of_lookup rfl (flagOf_eq_ok h.coloredOutput), rfl⟩

theorem WellTyped.expressible (h : s.WellTyped) : Toml.Expressible (.object s.parts) := by
  obtain ⟨⟨_, hu⟩, ⟨_, ht⟩, ⟨fields, hf⟩, ⟨_, hp⟩, ⟨_, hs⟩, ⟨_, hw⟩, ⟨_, he⟩, ⟨_, hr⟩, ⟨tiers, hts, htier⟩,
    ⟨_, hc⟩⟩ := h
  have hrecency : ∀ m ∈ s.recencyPart, Toml.Expressible m.2 := by
    intro m hm
    obtain ⟨d, hd⟩ := exists_of_mem_differing hm
    have hentries : ∀ entry ∈ s.recencyEntries, Toml.Expressible entry.2.1 := by
      simpa [recencyEntries, he, hr, hts] using fun tier hm => (htier tier hm).expressible
    exact hentries _ hd
  by_cases hn : s.recencyPart.isEmpty
  case pos => simp [parts, hu, ht, hf, hp, hs, hw, hc, hn]
  case neg => simpa [parts, hu, ht, hf, hp, hs, hw, hc, hn] using hrecency

end CatalogSearch.Settings
