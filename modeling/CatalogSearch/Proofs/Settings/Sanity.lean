import CatalogSearch.Proofs.Number.Integer
import CatalogSearch.Proofs.Settings.Usability

namespace CatalogSearch.Settings

def Addressed (s : Settings) : Prop :=
  ∃ address, s.url = .str address ∧
    ("http://".toList <+: address.toList ∨ "https://".toList <+: address.toList)

def Timed (s : Settings) : Prop :=
  ∃ seconds, s.timeout = .double seconds ∧ seconds.Positive

def Staffed (s : Settings) : Prop :=
  ∃ workers, s.siblingWorkers = .int workers ∧ 1 ≤ workers

def Untimed (data : Value) : Prop :=
  ∃ table entries, data = .object table ∧ table.lookup "elasticsearch" = some (.object entries) ∧
    entries.lookup "timeout" = some (.double .nan)

theorem startsWith_iff {lead text : String} : startsWith lead text ↔ lead.toList <+: text.toList :=
  List.isPrefixOf_iff_prefix

theorem checkUrl_iff {address : String} : checkUrl (.str address) = .ok () ↔
    "http://".toList <+: address.toList ∨ "https://".toList <+: address.toList := by
  rw [← startsWith_iff, ← startsWith_iff, ← Bool.or_eq_true, checkUrl]
  split
  case isTrue h  => exact iff_of_true rfl h
  case isFalse h => exact iff_of_false nofun h

-- What does not compare with zero passes.
theorem checkTimeout_iff : checkTimeout (.double seconds) = .ok () ↔ seconds.Positive ∨ seconds = .nan := by
  rw [Double.positive_iff, ← Double.compareInt?_eq_none_iff, checkTimeout]
  change (Except.ok (seconds.compareInt? 0) >>= _ : Except Error Unit) = _ ↔ _
  rcases seconds.compareInt? 0 with _ | _ | _ | _ <;> simp [bind, Except.bind, pure, Except.pure]

theorem checkWorkers_iff : checkWorkers (.int workers) = .ok () ↔ 1 ≤ workers := by
  rw [← Int.not_lt, ← compare_lt_iff_lt, checkWorkers]
  change (Except.ok (some (compare workers 1)) >>= _ : Except Error Unit) = _ ↔ _
  cases compare workers 1 <;> simp [bind, Except.bind, pure, Except.pure]

theorem exists_validate_iff {s : Settings} : (∃ warnings, s.validate = .ok warnings) ↔
    checkUrl s.url = .ok () ∧ checkTimeout s.timeout = .ok () ∧ checkWorkers s.siblingWorkers = .ok () := by
  rw [validate]
  constructor
  case mp =>
    intro ⟨_, h⟩
    obtain ⟨_, hu, h⟩ := Outcome.bind_eq_ok_iff.mp h
    obtain ⟨_, ht, h⟩ := Outcome.bind_eq_ok_iff.mp h
    obtain ⟨_, hw, _⟩ := Outcome.bind_eq_ok_iff.mp h
    exact ⟨hu, ht, hw⟩
  case mpr =>
    intro ⟨hu, ht, hw⟩
    rw [hu, ht, hw]
    exact ⟨_, rfl⟩

namespace Kind

theorem Keeps.exists_seconds (h : Kind.time.Keeps v w) :
    ∃ seconds, w = .double seconds ∧ (seconds = .nan ↔ v = .double .nan) := by
  cases h
  case rounded h => exact ⟨_, rfl, iff_of_false (Double.ne_nan_of_ofInt? h) nofun⟩
  case same hs hn =>
    cases hs
    case seconds      => exact ⟨_, rfl, Value.double.injEq .. ▸ Iff.rfl⟩
    case wholeSeconds => exact absurd rfl (hn rfl _)

end Kind

section

variable {s : Settings}

theorem exists_seconds_of_parse (h : parse data origin = .ok s) :
    ∃ seconds, s.timeout = .double seconds ∧ (seconds = .nan ↔ Untimed data) := by
  obtain ⟨table, rfl⟩ := exists_table_of_parse h
  let key : Key := ⟨"elasticsearch", "timeout", .time, (·.timeout)⟩
  have hm : key ∈ keys := by simp [keys, key]
  have hs := settled_of_read ((parse_eq_ok_iff.mp h).right key hm)
  have hu : Untimed (.object table) ↔ key.given? table = some (.double .nan) := by
    simp [Untimed, Key.given?_eq_some_iff, key]
  rw [Key.Settled] at hs
  split at hs
  case h_1 v hg =>
    obtain ⟨seconds, hk, hn⟩ := hs.exists_seconds
    exact ⟨seconds, hk, by rw [hu, hg, hn, Option.some.injEq]⟩
  case h_2 hg =>
    exact ⟨_, hs, iff_of_false (Double.ofDecimal_ne_nan _ _ _) (by simp [hu, hg])⟩

theorem exists_parts_of_parse (h : parse data origin = .ok s) :
    ∃ address workers, s.url = .str address ∧ s.siblingWorkers = .int workers := by
  obtain ⟨table, rfl⟩ := exists_table_of_parse h
  have hs := suits_of_parse h
  simp only [keys, List.forall_mem_cons] at hs
  obtain ⟨hu, -, -, -, -, hw, -⟩ := hs
  generalize s.url = url at hu
  generalize s.siblingWorkers = workers at hw
  cases hu
  cases hw
  exact ⟨_, _, rfl, rfl⟩

theorem exists_validate_iff_of_parse (h : parse data origin = .ok s) :
    (∃ warnings, s.validate = .ok warnings) ↔ s.Addressed ∧ s.Staffed ∧ (s.Timed ∨ Untimed data) := by
  obtain ⟨seconds, ht, hn⟩ := exists_seconds_of_parse h
  obtain ⟨address, workers, hu, hw⟩ := exists_parts_of_parse h
  rw [exists_validate_iff, hu, ht, hw, checkUrl_iff, checkTimeout_iff, checkWorkers_iff, hn]
  simp [Addressed, Timed, Staffed, hu, ht, hw, and_comm]

theorem not_timed_of_untimed (h : parse data origin = .ok s) (hn : Untimed data) : ¬s.Timed := by
  obtain ⟨seconds, ht, hs⟩ := exists_seconds_of_parse h
  rintro ⟨_, hx, hp⟩
  cases ht.symm.trans hx
  exact Double.not_positive_nan (hs.mpr hn ▸ hp)

end

theorem accepted_sane (h : Accepted data s) : s.Addressed ∧ s.Staffed ∧ (s.Timed ↔ ¬Untimed data) := by
  obtain ⟨origin, hp⟩ := h.read
  obtain ⟨ha, hs, ht⟩ := (exists_validate_iff_of_parse hp).mp h.valid
  refine ⟨ha, hs, ?_, ht.resolve_right⟩
  exact fun ht hn => not_timed_of_untimed hp hn ht

def timeData (seconds : Double) : Value :=
  .object [("elasticsearch", .object [("timeout", .double seconds)])]

def timed (seconds : Double) : Settings where
  timeout := .double seconds

theorem accepted_timed (h : seconds.Positive ∨ seconds = .nan) : Accepted (timeData seconds) (timed seconds) where
  read  := ⟨none, rfl⟩
  valid := exists_validate_iff.mpr ⟨rfl, checkTimeout_iff.mpr h, rfl⟩

theorem accepted_sane_five_seconds :
    let seconds := Double.ofDecimal false 5 0
    Accepted (timeData seconds) (timed seconds) ∧ (timed seconds).Timed := by
  intro seconds
  have hp : seconds.Positive := Double.positive_iff.mpr (by decide +kernel)
  have h : Accepted (timeData seconds) (timed seconds) := accepted_timed (.inl hp)
  have hn : seconds ≠ .nan := Double.ofDecimal_ne_nan _ _ _
  have hu : ¬Untimed (timeData seconds) := by simpa [Untimed, timeData, List.lookup_cons] using hn
  exact ⟨h, (accepted_sane h).right.right.mpr hu⟩

-- No comparison holds of it, so none of them refuses it.
theorem not_accepted_sane_nan :
    ¬∀ (data : Value) (s : Settings), Accepted data s → s.Addressed ∧ s.Timed ∧ s.Staffed := by
  intro h
  obtain ⟨-, ⟨_, hs, hp⟩, -⟩ := h _ _ (accepted_timed (.inr rfl))
  cases hs
  exact Double.not_positive_nan hp

end CatalogSearch.Settings
