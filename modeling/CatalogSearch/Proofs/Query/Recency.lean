import Mathlib.Data.Set.List
import CatalogSearch.Proofs.Calendar.Text
import CatalogSearch.Proofs.Outcome
import CatalogSearch.Query.Recency

namespace CatalogSearch
namespace Recency

theorem tierClause_eq {r : Recency} (boost : Value) : r.tierClause (.list [boost, .int months]) =
    (r.today.monthsBefore months).map fun day => ⟨r.field, boost, day.text ++ "T00:00:00"⟩ := by
  rw [Outcome.map_eq_bind]
  rfl

def ofTiers (today : Date) (field : String) (tiers : List (Value × Int)) : Recency where
  today := today
  field := field
  tiers := .list <| tiers.map fun tier => .list [tier.1, .int tier.2]

structure Window (today : Date) where
  boost  : Value
  months : Int
  start  : Date
  begins : today.monthsBefore months = .ok start

namespace Window

variable {today later : Date}

def tier (w : Window today) : Value × Int :=
  (w.boost, w.months)

def since (w : Window today) : String :=
  w.start.text ++ "T00:00:00"

def clause (field : String) (w : Window today) : RecencyClause :=
  ⟨field, w.boost, w.since⟩

theorem exists_tiers_eq {tiers : List (Value × Int)} (h : ∀ tier ∈ tiers, today.ReachesBack tier.2) :
    ∃ windows : List (Window today), windows.map tier = tiers := by
  suffices ht : tiers ∈ Set.range (List.map fun w : Window today => w.tier) from ht
  rw [Set.range_list_map]
  intro (boost, months) hm
  obtain ⟨start, hs⟩ := Date.exists_monthsBefore_iff.mpr (h _ hm)
  exact ⟨⟨boost, months, start, hs⟩, rfl⟩

theorem clauses_eq (field : String) (windows : List (Window today)) :
    (ofTiers today field (windows.map tier)).clauses = .ok (windows.map (clause field)) := by
  refine Outcome.mapM_eq_ok_iff.mpr ?_
  rw [List.map_map, List.map_map, List.map_map]
  refine List.map_congr_left fun w _ => ?_
  exact (tierClause_eq w.boost).trans (congrArg _ w.begins)

theorem tier_injective : Function.Injective fun w : Window today => w.tier := by
  intro w v h
  have ⟨_, _, _, hw⟩ := w
  have ⟨_, _, _, hv⟩ := v
  cases h
  cases hw.symm.trans hv
  rfl

theorem since_lt_iff {w : Window today} {v : Window later} : w.since < v.since ↔ w.start < v.start :=
  (Date.strictMono_text_append _).lt_iff_lt

theorem since_le_iff {w : Window today} {v : Window later} : w.since ≤ v.since ↔ w.start ≤ v.start :=
  (Date.strictMono_text_append _).le_iff_le

theorem start_lt {w v : Window today} (h : v.months < w.months) : w.start < v.start :=
  Date.lt_of_monthsBefore w.begins v.begins h

theorem start_eq {w v : Window today} (h : v.months = w.months) : w.start = v.start :=
  Except.ok.inj <| w.begins.symm.trans <| h ▸ v.begins

theorem start_le {w v : Window today} (h : v.months ≤ w.months) : w.start ≤ v.start :=
  (Int.lt_or_eq_of_le h).elim (start_lt · |>.le) (start_eq · |>.le)

theorem start_le_later {w : Window today} {v : Window later} (hm : v.months = w.months) (h : today ≤ later) :
    w.start ≤ v.start :=
  Date.le_of_monthsBefore w.begins (hm ▸ v.begins) h

end Window

-- Every tier with a cut-off date opens a window. Over more months, the window begins at an earlier date that
-- has an earlier text, so that it covers the windows over fewer months. At a later date, no window begins
-- earlier.
theorem windows_nested {today : Date} (field : String) {tiers : List (Value × Int)}
    (h : ∀ tier ∈ tiers, today.ReachesBack tier.2) :
    ∃ windows : List (Window today),
      windows.map (·.tier) = tiers ∧ (ofTiers today field tiers).clauses = .ok (windows.map (·.clause field)) ∧
      (∀ w ∈ windows, ∀ v ∈ windows,
        (v.months < w.months → w.start < v.start ∧ w.since < v.since) ∧
        (v.months = w.months → w.since = v.since) ∧
        (v.months ≤ w.months →
          (∀ day, v.start ≤ day → w.start ≤ day) ∧ ∀ text, v.since ≤ text → w.since ≤ text)) ∧
      ∀ w ∈ windows, ∀ later ≥ today, ∀ v : Window later, v.months = w.months →
        w.start ≤ v.start ∧ w.since ≤ v.since := by
  obtain ⟨windows, rfl⟩ := Window.exists_tiers_eq h
  refine ⟨windows, rfl, Window.clauses_eq field windows, ?nested, ?forward⟩
  case nested =>
    intro w _ v _
    refine ⟨fun hm => ?strictly, fun hm => ?alike, fun hm => ⟨?dates, ?texts⟩⟩
    case strictly => exact ⟨Window.start_lt hm, Window.since_lt_iff.mpr (Window.start_lt hm)⟩
    case alike    => rw [Window.since, Window.since, Window.start_eq hm]
    case dates    => exact fun _ => (Window.start_le hm).trans
    case texts    => exact fun _ => (Window.since_le_iff.mpr (Window.start_le hm)).trans
  case forward =>
    intro w _ later hl v hm
    have hs := Window.start_le_later hm hl
    exact ⟨hs, Window.since_le_iff.mpr hs⟩

theorem windows_nested_end_of_march :
    let today : Date := ⟨2024, 3, 31, by decide⟩
    let recent : Window today := ⟨.int 5, 1, ⟨2024, 2, 29, by decide⟩, by decide⟩
    let old : Window today := ⟨.int 1, 13, ⟨2023, 2, 28, by decide⟩, by decide⟩
    (∀ tier ∈ [recent.tier, old.tier], today.ReachesBack tier.2) ∧
      (ofTiers today "created_at" [recent.tier, old.tier]).clauses =
        .ok [⟨"created_at", .int 5, "2024-02-29T00:00:00"⟩, ⟨"created_at", .int 1, "2023-02-28T00:00:00"⟩] ∧
      old.since < recent.since := by
  intro today recent old
  have ht : ∀ tier ∈ [recent.tier, old.tier], today.ReachesBack tier.2 := by
    simp only [List.forall_mem_cons]
    exact ⟨⟨recent.start, by decide⟩, ⟨old.start, by decide⟩, nofun⟩
  obtain ⟨windows, hw, hc, hn, -⟩ := windows_nested "created_at" ht
  obtain rfl : windows = [recent, old] := Window.tier_injective.list_map hw
  have hr : recent.since = "2024-02-29T00:00:00" := by decide
  have ho : old.since = "2023-02-28T00:00:00" := by decide
  refine ⟨ht, hr ▸ ho ▸ hc, ?_⟩
  exact ((hn old (by simp) recent (by simp)).left (by decide)).right

end Recency
end CatalogSearch
