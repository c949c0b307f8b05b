import CatalogSearch.Proofs.Settings.Keys

namespace CatalogSearch.Settings

-- The first key at fault, in the order in which they are read, and what is wrong with it.
def FirstOffence (table : List (String × Value)) : Error → Prop :=
  Outcome.First (Offence table) keys

def Settles (outcome : Except Error Settings) : Prop :=
  (∃ s, outcome = .ok s) ∨ ∃ err, outcome = .error err ∧ err.kind? = some .configValidation

section

variable {table : List (String × Value)} {key : Key}

theorem exists_read_iff : (∃ v, Key.read table key = .ok v) ↔ ∀ err, ¬Offence table key err := by
  rw [Outcome.exists_ok_iff]
  exact forall_congr' fun err => not_congr read_eq_error_iff

theorem parse_eq_error_iff : parse (.object table) origin = .error err ↔ FirstOffence table err := by
  rw [parse_eq, Outcome.map_eq_error_iff]
  exact Outcome.mapM_eq_error_iff_first fun key _ err => read_eq_error_iff

theorem exists_parse_iff :
    (∃ s, parse (.object table) origin = .ok s) ↔ ∀ key ∈ keys, ∀ err, ¬Offence table key err :=
  exists_parse_iff_read.trans <| forall₂_congr fun _ _ => exists_read_iff

theorem Offence.kind_or_misuse (h : Offence table key err) :
    err.kind? = some .configValidation ∨ ∃ cause, err = .misuse cause := by
  cases h
  case unfit    => exact .inl rfl
  case tooLarge => exact .inr ⟨_, rfl⟩
  case hidden   => exact .inr ⟨_, rfl⟩

theorem settles_iff :
    Settles (parse (.object table) origin) ↔ ∀ cause, ¬FirstOffence table (.misuse cause) := by
  constructor
  case mp =>
    rintro (⟨s, hs⟩ | ⟨err, he, hk⟩) cause hf
    case inl => cases hs.symm.trans (parse_eq_error_iff.mpr hf)
    case inr =>
      cases he.symm.trans (parse_eq_error_iff.mpr hf)
      cases hk
  case mpr =>
    intro h
    cases ho : parse (.object table) origin
    case ok s => exact .inl ⟨s, rfl⟩
    case error err =>
      obtain ⟨_, _, _, _, _, hf⟩ := parse_eq_error_iff.mp ho
      rcases hf.kind_or_misuse with hk | ⟨cause, rfl⟩
      case inl => exact .inr ⟨err, rfl, hk⟩
      case inr => exact absurd (parse_eq_error_iff.mp ho) (h cause)

end

-- A table is read if no key is at fault. Otherwise the first key at fault decides the error, which names
-- this key unless its value is a whole number too large for a time, or stands in a part of the table in
-- which it cannot be looked up.
theorem parse_decided_by_first_offence (table : List (String × Value)) (origin : Option String) :
    let outcome := parse (.object table) origin
    ((∃ s, outcome = .ok s) ↔ ∀ key ∈ keys, ∀ err, ¬Offence table key err) ∧
    (∀ err, outcome = .error err ↔ FirstOffence table err) ∧
    (Settles outcome ↔ ∀ cause, ¬FirstOffence table (.misuse cause)) :=
  ⟨exists_parse_iff, fun _ => parse_eq_error_iff, settles_iff⟩

theorem not_settles_number_for_part : ¬∀ table origin, Settles (parse (.object table) origin) := by
  intro h
  have hp : parse (.object [("elasticsearch", .int 5)]) none = .error (.misuse .wrongKind) := rfl
  rcases h [("elasticsearch", .int 5)] none with ⟨s, hs⟩ | ⟨err, he, hk⟩
  case inl => cases hp.symm.trans hs
  case inr =>
    cases hp.symm.trans he
    cases hk

end CatalogSearch.Settings
