namespace CatalogSearch

def setEntry (key : String) (value : α) : List (String × α) → List (String × α)
  | []             => [(key, value)]
  | (k, v) :: rest => if k = key then (k, value) :: rest else (k, v) :: setEntry key value rest

theorem mem_keys_setEntry {entries : List (String × α)} :
    k ∈ (setEntry key value entries).map (·.1) ↔ k = key ∨ k ∈ entries.map (·.1) := by
  induction entries
  case nil => simp [setEntry]
  case cons hd tl hi =>
    by_cases hk : hd.1 = key
    case pos => simp only [setEntry, hk, if_true, List.map_cons, List.mem_cons]; grind
    case neg => simp only [setEntry, hk, if_false, List.map_cons, List.mem_cons, hi]; grind

theorem setEntry_keys_nodup {entries : List (String × α)} (h : (entries.map (·.1)).Nodup) :
    ((setEntry key value entries).map (·.1)).Nodup := by
  induction entries
  case nil => simp [setEntry]
  case cons hd tl hi =>
    simp only [List.map_cons, List.nodup_cons] at h
    by_cases hk : hd.1 = key
    case pos => simpa only [setEntry, hk, if_true, List.map_cons, List.nodup_cons] using hk ▸ h
    case neg =>
      simp only [setEntry, hk, if_false, List.map_cons, List.nodup_cons]
      exact ⟨fun hm => (mem_keys_setEntry.mp hm).elim hk h.left, hi h.right⟩

theorem lookup_entries_cons {entries : List (String × α)} :
    (e :: entries).lookup k = if k = e.1 then some e.2 else entries.lookup k := by
  have ⟨key, value⟩ := e
  by_cases hk : k = key
  case pos => simp [hk]
  case neg => simp [List.lookup_cons, beq_false_of_ne hk, hk]

theorem lookup_setEntry {entries : List (String × α)} :
    (setEntry key value entries).lookup k = if k = key then some value else entries.lookup k := by
  induction entries
  case nil => simp only [setEntry, lookup_entries_cons]
  case cons hd tl hi =>
    by_cases hk : hd.1 = key
    case pos => simp only [setEntry, hk, if_true, lookup_entries_cons]; grind
    case neg => simp only [setEntry, hk, if_false, lookup_entries_cons, hi]; grind

theorem lookup_entries_eq_none_iff {entries : List (String × α)} :
    entries.lookup k = none ↔ k ∉ entries.map (·.1) := by
  induction entries
  case nil           => simp
  case cons hd tl hi => by_cases hk : k = hd.1 <;> simp [lookup_entries_cons, hk, hi]

theorem mem_entries_iff_lookup {entries : List (String × α)} (h : (entries.map (·.1)).Nodup) :
    e ∈ entries ↔ entries.lookup e.1 = some e.2 := by
  induction entries
  case nil => simp
  case cons hd tl hi =>
    have ⟨hn, h⟩ := List.nodup_cons.mp h
    rw [List.mem_cons, lookup_entries_cons, hi h]
    by_cases hk : e.1 = hd.1
    case pos => simp [hk, lookup_entries_eq_none_iff.mpr hn, Prod.ext_iff, eq_comm]
    case neg =>
      have hn : e ≠ hd := fun he => hk (congrArg _ he)
      simp only [hn, false_or, hk, if_false]

@[ext]
structure OrderedMap (α : Type) where
  entries : List (String × α)
  nodup   : (entries.map (·.1)).Nodup

namespace OrderedMap

def empty : OrderedMap α where
  entries := []
  nodup   := .nil

instance : EmptyCollection (OrderedMap α) := ⟨empty⟩
instance : Inhabited (OrderedMap α) := ⟨empty⟩

def keys (m : OrderedMap α) : List String :=
  m.entries.map (·.1)

def get? (m : OrderedMap α) (key : String) : Option α :=
  m.entries.lookup key

def contains (m : OrderedMap α) (key : String) : Bool :=
  m.keys.contains key

def isEmpty (m : OrderedMap α) : Bool :=
  m.entries.isEmpty

def insert (m : OrderedMap α) (key : String) (value : α) : OrderedMap α where
  entries := setEntry key value m.entries
  nodup   := setEntry_keys_nodup m.nodup

def erase (m : OrderedMap α) (key : String) : OrderedMap α where
  entries := m.entries.filter (·.1 ≠ key)
  nodup   := m.nodup.sublist <| List.filter_sublist.map _

def ofList (entries : List (String × α)) : OrderedMap α :=
  entries.foldl (fun m e => m.insert e.1 e.2) empty

def mapValues (f : α → β) (m : OrderedMap α) : OrderedMap β where
  entries := m.entries.map fun e => (e.1, f e.2)
  nodup   := by simpa [List.map_map, Function.comp_def] using m.nodup

@[simp]
theorem keys_erase (m : OrderedMap α) : (m.erase key).keys = m.keys.filter (· ≠ key) := by
  simp [keys, erase, List.filter_map, Function.comp_def]

@[simp]
theorem keys_mapValues (m : OrderedMap α) {f : α → β} : (m.mapValues f).keys = m.keys := by
  simp [keys, mapValues, Function.comp_def]

@[simp]
theorem get?_insert (m : OrderedMap α) :
    (m.insert key value).get? k = if k = key then some value else m.get? k :=
  lookup_setEntry

theorem get?_eq_none_iff (m : OrderedMap α) : m.get? k = none ↔ k ∉ m.keys :=
  lookup_entries_eq_none_iff

theorem mem_entries_iff (m : OrderedMap α) : e ∈ m.entries ↔ m.get? e.1 = some e.2 :=
  mem_entries_iff_lookup m.nodup

@[simp]
theorem get?_mapValues (m : OrderedMap α) {f : α → β} :
    (m.mapValues f).get? k = (m.get? k).map f := by
  simp only [get?, mapValues]
  induction m.entries
  case nil           => rfl
  case cons hd tl hi => by_cases hk : k = hd.1 <;> simp [lookup_entries_cons, hk, hi]

theorem get?_foldl_insert (m n : OrderedMap α) :
    (n.entries.foldl (fun m e => m.insert e.1 e.2) m).get? k = (n.get? k).or (m.get? k) := by
  obtain ⟨entries, h⟩ := n
  simp only [get?]
  induction entries generalizing m
  case nil => rfl
  case cons hd tl hi =>
    have ⟨hn, h⟩ := List.nodup_cons.mp h
    have hs : (m.insert hd.1 hd.2).entries.lookup k =
        if k = hd.1 then some hd.2 else m.entries.lookup k := lookup_setEntry
    rw [List.foldl_cons, hi _ h, hs, lookup_entries_cons]
    by_cases hk : k = hd.1
    case pos => simp [hk, lookup_entries_eq_none_iff.mpr hn]
    case neg => simp only [hk, if_false]

end OrderedMap
end CatalogSearch
