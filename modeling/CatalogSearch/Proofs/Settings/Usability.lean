import CatalogSearch.Proofs.Engine.Siblings
import CatalogSearch.Proofs.Query.Recency
import CatalogSearch.Proofs.Settings.Keys

namespace CatalogSearch

namespace Recency

theorem exists_clauses_iff {r : Recency} (hr : r.tiers = .list vs) (ht : ∀ tier ∈ vs, Settings.IsTier tier) :
    (∃ cs, r.clauses = .ok cs) ↔
      ∀ boost months, .list [boost, .int months] ∈ vs → r.today.ReachesBack months := by
  have hc : r.clauses = vs.mapM r.tierClause := by rw [clauses, hr]; rfl
  have hk (boost : Value) (months : Int) : (∃ c, r.tierClause (.list [boost, .int months]) = .ok c) ↔
      r.today.ReachesBack months := by
    rw [tierClause_eq, ← Date.exists_monthsBefore_iff]
    cases r.today.monthsBefore months <;> simp [Except.map]
  rw [hc, Outcome.exists_mapM_iff]
  constructor
  case mp  => exact fun h boost months hm => (hk boost months).mp (h _ hm)
  case mpr =>
    intro h tier hm
    cases ht tier hm
    case whole      => exact (hk _ _).mpr (h _ _ hm)
    case fractional => exact (hk _ _).mpr (h _ _ hm)

end Recency

namespace SearchOptions

structure Plain (options : SearchOptions) : Prop where
  context   : ∃ context, options.context = .ofTexts context
  selection : ∃ selection, options.selection = .ofTexts selection
  rows      : ∃ n, options.rows = .int n
  page      : ∃ n, options.page = .int n

theorem Plain.default : Plain {} :=
  ⟨⟨∅, rfl⟩, ⟨∅, rfl⟩, ⟨20, rfl⟩, ⟨0, rfl⟩⟩

end SearchOptions

namespace Engine

variable {e : Engine} {options : SearchOptions}

theorem exists_request_iff (ho : options.Plain) (hc : Criteria.compile e.tuning criteria = .ok sent) :
    (∃ r, e.request criteria options options.selection = .ok r) ↔
      ∃ boost, e.recency.mapM (·.clauses) = .ok boost := by
  obtain ⟨-, ⟨selection, hs⟩, ⟨rows, hr⟩, ⟨page, hp⟩⟩ := ho
  constructor
  case mp =>
    intro ⟨r, h⟩
    have ⟨_, _, _, hb⟩ := Query.build_eq_ok_iff.mp (request_eq_ok_iff.mp h).left
    exact ⟨_, hb⟩
  case mpr =>
    intro ⟨boost, hb⟩
    have ⟨filters, hf⟩ := Query.exists_filtersClause selection e.registry
    have ht : options.page.times options.rows = .ok (.int (page * rows)) := by rw [hr, hp]; rfl
    let query : Query := ⟨sent, options.context.clause, filters, boost⟩
    exact ⟨⟨query, _, _, _, _⟩, request_eq_ok_iff.mpr
      ⟨Query.build_eq_ok_iff.mpr ⟨hc, rfl, hs ▸ hf, hb⟩, ht, rfl, rfl, rfl⟩⟩

theorem request_of_boost_error (ho : options.Plain) (hc : Criteria.compile e.tuning criteria = .ok sent)
    (h : e.recency.mapM (·.clauses) = .error cause) :
    e.request criteria options options.selection = .error (.misuse cause) := by
  obtain ⟨-, ⟨selection, hs⟩, -, -⟩ := ho
  have ⟨filters, hf⟩ := Query.exists_filtersClause selection e.registry
  obtain ⟨r, hr, hb⟩ : ∃ r, e.recency = some r ∧ r.clauses = .error cause := by
    cases hr : e.recency
    case none   => simp [hr, pure, Except.pure] at h
    case some r => cases hb : r.clauses <;> simp_all [Functor.map, Except.map]
  rw [← hs] at hf
  simp only [Engine.request, Query.build, hc, hf, hr, hb, Option.mapM_some]
  rfl

end Engine

namespace Settings

structure Accepted (data : Value) (s : Settings) : Prop where
  read  : ∃ origin, parse data origin = .ok s
  valid : ∃ warnings, s.validate = .ok warnings

-- Every tier of a boost that is enabled begins in a month that the calendar has.
def TiersBegin (s : Settings) (today : Date) : Prop :=
  s.recencyEnabled = .bool true → ∀ tiers, s.recencyTiers = .list tiers →
    ∀ boost months, .list [boost, .int months] ∈ tiers → today.ReachesBack months

variable {s : Settings} {today : Date}

theorem exists_table_of_parse (h : parse data origin = .ok s) : ∃ table, data = .object table := by
  cases data
  case object table => exact ⟨table, rfl⟩
  all_goals cases h

theorem Accepted.suits (h : Accepted data s) : ∀ key ∈ keys, key.kind.Suits (key.value s) := by
  obtain ⟨origin, hp⟩ := h.read
  obtain ⟨table, rfl⟩ := exists_table_of_parse hp
  exact suits_of_parse hp

theorem Accepted.tuning (h : Accepted data s) : ∃ tuning, Engine.tuningOf s = .ok tuning := by
  have hs := h.suits
  simp only [keys, List.forall_mem_cons] at hs
  obtain ⟨-, -, hf, hp, -⟩ := hs
  generalize hfs : s.fullTextFields = fields at hf
  generalize hps : s.phraseField = field at hp
  cases hf
  cases hp
  exact ⟨_, by rw [Engine.tuningOf, hfs, hps]; rfl⟩

theorem Accepted.boost (h : Accepted data s) :
    ∃ enabled field tiers, s.recencyEnabled = .bool enabled ∧ s.recencyField = .str field ∧
      s.recencyTiers = .list tiers ∧ ∀ tier ∈ tiers, IsTier tier := by
  have hs := h.suits
  simp only [keys, List.forall_mem_cons] at hs
  obtain ⟨-, -, -, -, -, -, he, hf, ht, -⟩ := hs
  generalize s.recencyEnabled = enabled at he
  generalize s.recencyField = field at hf
  generalize s.recencyTiers = tiers at ht
  cases he
  cases hf
  cases ht
  exact ⟨_, _, _, rfl, rfl, rfl, ‹_›⟩

theorem Accepted.engine (h : Accepted data s) (registry : Registry) (today : Date) :
    ∃ e : Engine, Engine.ofSettings s registry (some today) = .ok e ∧
      ((∃ boost, e.recency.mapM (·.clauses) = .ok boost) ↔ s.TiersBegin today) := by
  obtain ⟨tuning, ht⟩ := h.tuning
  obtain ⟨enabled, field, tiers, he, hf, hr, htiers⟩ := h.boost
  cases enabled
  case false =>
    refine ⟨_, by rw [Engine.ofSettings, he, ht]; rfl, ?_⟩
    simp only [TiersBegin, he]
    exact ⟨nofun, fun _ => ⟨none, rfl⟩⟩
  case true =>
    refine ⟨_, by rw [Engine.ofSettings, he, ht, hf]; rfl, ?_⟩
    let r : Recency := { today, field, tiers := s.recencyTiers }
    have hc : (∃ boost, (some r).mapM (·.clauses) = .ok boost) ↔ ∃ cs, r.clauses = .ok cs := by
      cases hc : r.clauses <;> simp [hc, Functor.map, Except.map]
    refine hc.trans <| (Recency.exists_clauses_iff hr htiers).trans ?_
    simp [TiersBegin, he, hr, r]

-- An engine can be made of all accepted settings. It can build the request of all criteria that have a
-- clause under all plain options, if every tier begins within the calendar. Otherwise it can build none,
-- and the error does not say what is wrong with the settings.
theorem usable_iff_tiersBegin (h : Accepted data s) (registry : Registry) (today : Date)
    (criteria : Value) {options : SearchOptions} (ho : options.Plain) :
    ∃ e, Engine.ofSettings s registry (some today) = .ok e ∧
      ((∃ sent, Criteria.compile e.tuning criteria = .ok sent) →
        ((∃ r, e.request criteria options options.selection = .ok r) ↔ s.TiersBegin today) ∧
        (¬s.TiersBegin today →
          ∃ cause, e.request criteria options options.selection = .error (.misuse cause))) := by
  obtain ⟨e, he, hb⟩ := h.engine registry today
  refine ⟨e, he, fun ⟨sent, hc⟩ => ⟨(Engine.exists_request_iff ho hc).trans hb, fun hn => ?_⟩⟩
  cases hm : e.recency.mapM (·.clauses)
  case ok boost    => exact absurd (hb.mp ⟨boost, hm⟩) hn
  case error cause => exact ⟨cause, Engine.request_of_boost_error ho hc hm⟩

def boostData (months : Int) : Value :=
  .object [("recency_boost", .object [("enabled", .bool true), ("tiers", .list [.list [.int 1, .int months]])])]

def boosted (months : Int) : Settings where
  recencyEnabled := .bool true
  recencyTiers   := .list [.list [.int 1, .int months]]

theorem accepted_boosted (months : Int) : Accepted (boostData months) (boosted months) where
  read  := ⟨none, rfl⟩
  valid := ⟨[], rfl⟩

theorem usable_with_one_month :
    let today : Date := ⟨2024, 3, 31, by decide⟩
    ∃ e r, Accepted (boostData 1) (boosted 1) ∧ SearchOptions.Plain {} ∧
      Engine.ofSettings (boosted 1) {} (some today) = .ok e ∧ e.request .null {} ∅ = .ok r := by
  intro today
  obtain ⟨e, he, hb⟩ := usable_iff_tiersBegin (accepted_boosted 1) {} today .null .default
  have ht : (boosted 1).TiersBegin today := by
    rintro - vs ⟨⟩ boost months hm
    obtain ⟨-, rfl⟩ : boost = .int 1 ∧ months = 1 := by simpa using hm
    exact ⟨⟨2024, 2, 29, by decide⟩, by decide⟩
  obtain ⟨r, hr⟩ := (hb ⟨.anything, rfl⟩).left.mpr ht
  exact ⟨e, r, accepted_boosted 1, .default, he, hr⟩

theorem not_usable_with_endless_tier :
    ¬∀ (data : Value) (s : Settings) (registry : Registry) (today : Date) (criteria : Value)
      (options : SearchOptions), Accepted data s → options.Plain →
        ∃ e, Engine.ofSettings s registry (some today) = .ok e ∧
          ((∃ sent, Criteria.compile e.tuning criteria = .ok sent) →
            ∃ r, e.request criteria options options.selection = .ok r) := by
  intro h
  let today : Date := ⟨2024, 3, 31, by decide⟩
  obtain ⟨e, he, hr⟩ := h _ _ {} today .null {} (accepted_boosted 30000) .default
  cases he
  obtain ⟨r, hr⟩ := hr ⟨.anything, rfl⟩
  have hn : Except.error (Error.misuse .badValue) = Except.ok r := hr
  cases hn

end Settings
end CatalogSearch
