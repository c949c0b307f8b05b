import CatalogSearch.OrderedMap
import Mathlib.Data.List.Induction

namespace CatalogSearch

section

variable {α β κ : Type} {key : α → κ} {x y : α} {xs : List α}

def LastOf (key : α → κ) (x : α) (xs : List α) : Prop :=
  ∃ before after, xs = before ++ x :: after ∧ ∀ y ∈ after, key y ≠ key x

theorem LastOf.append_front (front : List α) (h : LastOf key x xs) : LastOf key x (front ++ xs) := by
  have ⟨before, after, hs, ha⟩ := h
  exact ⟨front ++ before, after, by rw [hs, List.append_assoc], ha⟩

theorem LastOf.append_rest (h : LastOf key x xs) (hr : ∀ y ∈ rest, key y ≠ key x) :
    LastOf key x (xs ++ rest) := by
  have ⟨before, after, hs, ha⟩ := h
  refine ⟨before, after ++ rest, by rw [hs, List.append_assoc, List.cons_append], ?_⟩
  exact List.forall_mem_append.mpr ⟨ha, hr⟩

theorem exists_lastOf (h : k ∈ xs.map key) : ∃ x, LastOf key x xs ∧ key x = k := by
  induction xs
  case nil => cases h
  case cons y xs hi =>
    by_cases hk : k ∈ xs.map key
    case pos =>
      have ⟨x, hx, he⟩ := hi hk
      exact ⟨x, hx.append_front [y], he⟩
    case neg =>
      have he : key y = k := by simpa [hk, eq_comm] using h
      exact ⟨y, ⟨[], xs, rfl, fun z hz hzy => hk (he ▸ hzy ▸ List.mem_map_of_mem hz)⟩, he⟩

theorem lastOf_map {f : β → α} {ys : List β} :
    LastOf key x (ys.map f) ↔ ∃ y, LastOf (key ∘ f) y ys ∧ f y = x := by
  constructor
  case mp =>
    intro ⟨before, after, hs, ha⟩
    have ⟨front, rest, hy, _, hr⟩ := List.map_eq_append_iff.mp hs
    have ⟨y, tail, ht, hx, hm⟩ := List.map_eq_cons_iff.mp hr
    subst hx hm ht
    exact ⟨y, ⟨front, tail, hy, by simpa using ha⟩, rfl⟩
  case mpr =>
    intro ⟨y, ⟨before, after, hs, ha⟩, hx⟩
    subst hx
    exact ⟨before.map f, after.map f, by simp [hs], by simpa using ha⟩

end

namespace OrderedMap

variable {α : Type} {m : OrderedMap α} {entries : List (String × α)}

theorem keys_setEntry (entries : List (String × α)) :
    (setEntry key value entries).map (·.1) =
      if key ∈ entries.map (·.1) then entries.map (·.1) else entries.map (·.1) ++ [key] := by
  induction entries
  case nil => rfl
  case cons e entries hi =>
    by_cases hk : e.1 = key
    case pos => simp [setEntry, hk]
    case neg =>
      simp only [setEntry, hk, if_false, List.map_cons, List.mem_cons, Ne.symm hk, false_or, hi]
      split <;> rfl

theorem keys_insert (m : OrderedMap α) (key : String) (value : α) :
    (m.insert key value).keys = if key ∈ m.keys then m.keys else m.keys ++ [key] :=
  keys_setEntry m.entries

theorem keys_foldl_insert (m : OrderedMap α) (entries : List (String × α)) :
    (entries.foldl (fun m e => m.insert e.1 e.2) m).keys =
      m.keys ++ ((entries.map (·.1)).filter (!m.keys.contains ·)).eraseDups := by
  induction entries generalizing m
  case nil => simp
  case cons e entries hi =>
    rw [List.foldl_cons, hi, keys_insert, List.map_cons]
    by_cases hk : e.1 ∈ m.keys
    case pos => simp [hk]
    case neg =>
      have hf (key : String) : (!(m.keys ++ [e.1]).contains key) = (!key == e.1 && !m.keys.contains key) := by
        by_cases hm : key ∈ m.keys <;> by_cases he : key = e.1 <;> simp [hm, he]
      simp only [hk, if_false, List.contains_eq_mem, decide_false, Bool.not_false, List.filter_cons_of_pos,
        List.eraseDups_cons, List.filter_filter, List.append_assoc, List.singleton_append]
      simp only [← List.contains_eq_mem, hf]

theorem keys_ofList (entries : List (String × α)) : (ofList entries).keys = (entries.map (·.1)).eraseDups := by
  have hf : (entries.map (·.1)).filter (!(empty : OrderedMap α).keys.contains ·) = entries.map (·.1) :=
    List.filter_eq_self.mpr fun _ _ => rfl
  rw [ofList, keys_foldl_insert, hf]
  rfl

theorem get?_foldl_of_absent (h : ∀ e ∈ entries, e.1 ≠ key) :
    (entries.foldl (fun m e => m.insert e.1 e.2) m).get? key = m.get? key := by
  induction entries generalizing m
  case nil => rfl
  case cons e entries hi =>
    have ⟨he, hs⟩ := List.forall_mem_cons.mp h
    rw [List.foldl_cons, hi hs, get?_insert, if_neg he.symm]

theorem get?_ofList_of_last (h : LastOf (·.1) e entries) : (ofList entries).get? e.1 = some e.2 := by
  have ⟨before, after, hs, ha⟩ := h
  rw [ofList, hs, List.foldl_append, List.foldl_cons, get?_foldl_of_absent ha, get?_insert, if_pos rfl]

theorem mem_ofList_iff : e ∈ (ofList entries).entries ↔ LastOf (·.1) e entries := by
  constructor
  case mpr => exact fun h => (mem_entries_iff _).mpr (get?_ofList_of_last h)
  case mp =>
    intro h
    have hk : e.1 ∈ (ofList entries).keys := List.mem_map_of_mem h
    rw [keys_ofList, List.mem_eraseDups] at hk
    have ⟨e', hl, he⟩ := exists_lastOf hk
    have hv : some e'.2 = some e.2 := by
      rw [← get?_ofList_of_last hl, ← (mem_entries_iff _).mp h, he]
    exact Prod.ext he (Option.some.inj hv) ▸ hl

theorem mapValues_insert (m : OrderedMap α) (f : α → β) (key : String) (value : α) :
    (m.insert key value).mapValues f = (m.mapValues f).insert key (f value) := by
  ext : 1
  simp only [mapValues, insert]
  induction m.entries
  case nil => rfl
  case cons e entries hi => by_cases hk : e.1 = key <;> simp [setEntry, hk, hi]

end OrderedMap

def valuesOf (key : String) (entries : List (String × α)) : List α :=
  (entries.filter (·.1 = key)).map (·.2)

section

variable {α : Type}

theorem valuesOf_ne_nil_iff {entries : List (String × α)} : valuesOf key entries ≠ [] ↔ key ∈ entries.map (·.1) := by
  simp [valuesOf]

theorem valuesOf_concat (key : String) (entries : List (String × α)) (e : String × α) :
    valuesOf key (entries ++ [e]) = if key = e.1 then valuesOf key entries ++ [e.2] else valuesOf key entries := by
  by_cases h : key = e.1 <;> simp [valuesOf, h, Ne.symm]

namespace OrderedMap

def append (m : OrderedMap (List α)) (key : String) (value : α) : OrderedMap (List α) :=
  m.insert key ((m.get? key).getD [] ++ [value])

def grouped (entries : List (String × α)) : OrderedMap (List α) :=
  entries.foldl (fun m e => m.append e.1 e.2) ∅

theorem grouped_concat (entries : List (String × α)) (e : String × α) :
    grouped (entries ++ [e]) = (grouped entries).append e.1 e.2 := by
  rw [grouped, List.foldl_append]
  rfl

theorem keys_grouped (entries : List (String × α)) : (grouped entries).keys = (entries.map (·.1)).eraseDups := by
  induction entries using List.reverseRecOn
  case nil => rfl
  case append_singleton entries e hi =>
    rw [grouped_concat, append, keys_insert, hi, List.map_append, List.eraseDups_append]
    by_cases hk : e.1 ∈ entries.map (·.1) <;> simp [hk, List.removeAll, List.eraseDups_cons]

theorem get?_grouped (key : String) (entries : List (String × α)) :
    ((grouped entries).get? key).getD [] = valuesOf key entries := by
  induction entries using List.reverseRecOn
  case nil => rfl
  case append_singleton entries e hi =>
    rw [grouped_concat, append, get?_insert, valuesOf_concat]
    by_cases hk : key = e.1
    case pos => rw [if_pos hk, if_pos hk, Option.getD_some, ← hk, hi]
    case neg => rw [if_neg hk, if_neg hk, hi]

theorem entries_grouped (entries : List (String × α)) :
    (grouped entries).entries = (entries.map (·.1)).eraseDups.map fun key => (key, valuesOf key entries) := by
  rw [← keys_grouped, keys, List.map_map]
  refine (List.map_id _).symm.trans <| List.map_congr_left fun e he => ?_
  have hv : (grouped entries).get? e.1 = some e.2 := (mem_entries_iff _).mp he
  simp only [id, Function.comp_apply, ← get?_grouped, hv, Option.getD_some]

end OrderedMap
end
end CatalogSearch
