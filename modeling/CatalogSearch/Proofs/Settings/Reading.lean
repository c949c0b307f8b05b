import CatalogSearch.Proofs.Number.Integer
import CatalogSearch.Proofs.Settings.Keys

namespace CatalogSearch.Settings

def Parted (table : List (String × Value)) : Prop :=
  ∀ key ∈ keys, ∀ part, table.lookup key.part = some part → ∃ entries, part = .object entries

def HoldsTime (table : List (String × Value)) : Prop :=
  ∀ key ∈ keys, key.kind = .time → ∀ n, key.given? table = some (.int n) → n.natAbs < Double.wholeBound

inductive Key.Refused (table : List (String × Value)) (key : Key) : Error → Prop
  | intro (hg : key.given? table = some v) (h : ¬key.kind.Suits v) :
    Refused table key (.settings (.invalid key.label (key.kind.reason v)))

section

variable {table table' : List (String × Value)} {key : Key}

theorem Parted.not_hides (h : Parted table) (hm : key ∈ keys) (hp : table.lookup key.part = some part) :
    ¬Hides key.name part := by
  obtain ⟨entries, rfl⟩ := h key hm part hp
  rintro ⟨⟩
  case other ho _ _ => exact ho entries rfl

theorem HoldsTime.exists_double (h : HoldsTime table) (hm : key ∈ keys) (hk : key.kind = .time)
    (hg : key.given? table = some (.int n)) : ∃ x, Double.ofInt? n = some x :=
  Double.exists_ofInt?_iff.mpr (h key hm hk n hg)

theorem read_of_parted (h : Parted table) (hm : key ∈ keys) :
    Key.read table key = ((key.given? table).map (key.kind.check key.label)).getD (.ok (key.value {})) := by
  rcases read_cases table key with hr | ⟨part, hp, hh, -⟩
  case inl => exact hr
  case inr => exact absurd hh (h.not_hides hm hp)

theorem read_eq_ok_iff (h : Parted table) (hm : key ∈ keys) :
    Key.read table key = .ok setting ↔ key.Settled table setting := by
  rw [read_of_parted h hm, settled_iff]

theorem read_eq_error_iff_refused (h : Parted table) (ht : HoldsTime table) (hm : key ∈ keys) :
    Key.read table key = .error err ↔ key.Refused table err := by
  rw [read_eq_error_iff]
  constructor
  case mp =>
    intro ho
    cases ho
    case unfit hp hn hs => exact .intro (Key.given?_eq_some_iff.mpr ⟨_, hp, hn⟩) hs
    case tooLarge hp hn hk hd =>
      obtain ⟨x, hx⟩ := ht.exists_double hm hk (Key.given?_eq_some_iff.mpr ⟨_, hp, hn⟩)
      cases hd.symm.trans hx
    case hidden hp hh => exact absurd hh (h.not_hides hm hp)
  case mpr =>
    rintro ⟨hg, hs⟩
    have ⟨_, hp, hn⟩ := Key.given?_eq_some_iff.mp hg
    exact .unfit hp hn hs

theorem parse_eq_ok_iff_settled (h : Parted table) :
    parse (.object table) origin = .ok s ↔ s.path = origin ∧ ∀ key ∈ keys, key.Settled table (key.value s) :=
  parse_eq_ok_iff.trans <| and_congr_right fun _ => forall₂_congr fun _ hm => read_eq_ok_iff h hm

theorem parse_eq_error_iff_refused (h : Parted table) (ht : HoldsTime table) :
    parse (.object table) origin = .error err ↔ Outcome.First (Key.Refused table) keys err := by
  rw [parse_eq, Outcome.map_eq_error_iff]
  exact Outcome.mapM_eq_error_iff_first fun key hm err => read_eq_error_iff_refused h ht hm

theorem parse_congr (h : Parted table) (h' : Parted table')
    (hg : ∀ key ∈ keys, key.given? table' = key.given? table) :
    parse (.object table') origin = parse (.object table) origin := by
  have hr : keys.mapM (Key.read table') = keys.mapM (Key.read table) := Outcome.mapM_congr fun key hm => by
    rw [read_of_parted h hm, read_of_parted h' hm, hg key hm]
  rw [parse_eq, parse_eq, hr]

theorem exists_settled_iff (ht : HoldsTime table) (hm : key ∈ keys) :
    (∃ setting, key.Settled table setting) ↔ ∀ v, key.given? table = some v → key.kind.Suits v := by
  simp only [Key.Settled]
  cases hg : key.given? table
  case none => simp
  case some v =>
    simp only [Option.some.injEq, forall_eq']
    constructor
    case mp =>
      rintro ⟨_, hk⟩
      exact hk.suits
    case mpr =>
      intro hs
      by_cases hw : key.kind = .time ∧ ∃ n, v = .int n
      case pos =>
        obtain ⟨hk, n, rfl⟩ := hw
        obtain ⟨x, hx⟩ := ht.exists_double hm hk hg
        exact ⟨.double x, hk ▸ .rounded hx⟩
      case neg => exact ⟨v, .same hs fun hk n hv => hw ⟨hk, n, hv⟩⟩

theorem exists_parse_iff_suits (h : Parted table) (ht : HoldsTime table) :
    (∃ s, parse (.object table) origin = .ok s) ↔
      ∀ key ∈ keys, ∀ v, key.given? table = some v → key.kind.Suits v :=
  exists_parse_iff_read.trans <| forall₂_congr fun _ hm =>
    (exists_congr fun _ => read_eq_ok_iff h hm).trans (exists_settled_iff ht hm)

end

-- A table of tables is read if and only if everything that it gives for a key suits the key. The settings are
-- then what is given, a whole time as a double, and the defaults for all other keys. Otherwise the first key
-- is reported whose value does not suit it. Nothing else in the table matters.
theorem parse_exact (h : Parted table) (ht : HoldsTime table) (origin : Option String) :
    let outcome := parse (.object table) origin
    ((∃ s, outcome = .ok s) ↔ ∀ key ∈ keys, ∀ v, key.given? table = some v → key.kind.Suits v) ∧
    (∀ s, outcome = .ok s ↔ s.path = origin ∧ ∀ key ∈ keys, key.Settled table (key.value s)) ∧
    (∀ err, outcome = .error err ↔ Outcome.First (Key.Refused table) keys err) ∧
    ∀ table', Parted table' → (∀ key ∈ keys, key.given? table' = key.given? table) →
      parse (.object table') origin = outcome :=
  ⟨exists_parse_iff_suits h ht, fun _ => parse_eq_ok_iff_settled h,
    fun _ => parse_eq_error_iff_refused h ht, fun _ => parse_congr h⟩

def shortTable : List (String × Value) := [
    ("elasticsearch", .object [("timeout", .int 5), ("retries", .bool true)]),
    ("recency_boost", .object [("enabled", .bool true)]),
    ("theme", .str "dark")
  ]

theorem parse_exact_short_table :
    Parted shortTable ∧ HoldsTime shortTable ∧ ∃ s seconds, parse (.object shortTable) none = .ok s ∧
      Double.ofInt? 5 = some seconds ∧ s.timeout = .double seconds ∧ s.recencyEnabled = .bool true ∧
      s.url = ({} : Settings).url := by
  have h : Parted shortTable := by simp [Parted, keys, shortTable, List.lookup_cons]
  have ht : HoldsTime shortTable := by
    have hb : 5 < Double.wholeBound := Double.lt_wholeBound (by decide)
    simpa [HoldsTime, keys, Key.given?, shortTable, List.lookup_cons] using hb
  obtain ⟨hs, hv, -⟩ := parse_exact h ht none
  have hg : ∀ key ∈ keys, ∀ v, key.given? shortTable = some v → key.kind.Suits v := by
    have hk : Kind.Suits .time (.int 5) ∧ Kind.Suits .flag (.bool true) := ⟨.wholeSeconds, .flag⟩
    simpa [keys, Key.given?, shortTable, List.lookup_cons] using hk
  obtain ⟨s, hp⟩ := hs.mpr hg
  have hk := ((hv s).mp hp).right
  simp only [keys, List.forall_mem_cons] at hk
  obtain ⟨hu, hx, -, -, -, -, he, -⟩ := hk
  have hx : Kind.Keeps .time (.int 5) s.timeout := hx
  have he : Kind.Keeps .flag (.bool true) s.recencyEnabled := he
  generalize hs : s.timeout = timeout at hx
  cases hx
  case rounded hx => exact ⟨h, ht, s, _, hp, hx, hs, he.eq_of_not_whole (by simp), hu⟩
  case same hn    => exact absurd rfl (hn rfl 5)

end CatalogSearch.Settings
